import BlockHeap.Pool.Basic
import BlockHeap.Session.Reply

/-!
# A session with settings

Changes to the settings of one pool, and pools built with the settings of the moment.
-/

namespace BlockHeap.Session

/-- A step on settings. -/
inductive SettingsStep where
  | malformed
  | change (c : Pool.Settings.Change)
  | build

/-- What a step on settings is answered with. -/
inductive SettingsBody where
  | badInput
  | fault (f : Fault)
  | done
  | built (info : PoolInfo)

/-- The answer to a step, with the description of the settings afterwards. -/
structure SettingsReply where
  body : SettingsBody
  description : String

namespace SettingsStep

/-- Carries out one step, apart from what can be seen afterwards. -/
def apply (policy : Policy) (s : Pool.Settings) : SettingsStep → SettingsBody × Pool.Settings
  | .malformed => (.badInput, s)
  | .change c =>
    match s.change c with
    | (.ok (), s) => (.done, s)
    | (.error f, s) => (.fault f, s)
  | .build =>
    match s.build policy with
    | .ok p => (.built (.ofPool p), s)
    | .error f => (.fault f, s)

/-- Carries out steps one after the other. -/
def runAll (policy : Policy) (s : Pool.Settings) : List SettingsStep → List SettingsReply
  | [] => []
  | step :: steps =>
    let r := step.apply policy s
    ⟨r.1, r.2.describe⟩ :: runAll policy r.2 steps

end SettingsStep

end BlockHeap.Session

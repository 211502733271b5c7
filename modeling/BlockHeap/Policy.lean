/-!
# Policies

A policy says who may use a pool: one thread (`local`) or all of them (`shared`). A run of operations one after the
other gives the same results under both; the policy decides whether typed requests are served by a registry of their
thread or by one of the whole process, and it is named in descriptions and log events.
-/

namespace BlockHeap

/-- Who may use a pool. -/
inductive Policy where
  /-- The thread that made it. -/
  | threadLocal
  /-- Every thread. -/
  | shared
  deriving DecidableEq, Repr, Inhabited

namespace Policy

/-- All policies. -/
def all : List Policy := [.threadLocal, .shared]

/-- The name of a policy. -/
def name : Policy → String
  | .threadLocal => "local"
  | .shared => "shared"

/-- The policy of a given name. -/
def ofName? (name : String) : Option Policy :=
  all.find? (·.name == name)

end Policy

end BlockHeap

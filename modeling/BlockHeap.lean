import BlockHeap.Cell
import BlockHeap.Session.Boxes
import BlockHeap.Session.Churn
import BlockHeap.Session.Map
import BlockHeap.Session.Mappings
import BlockHeap.Session.Run
import BlockHeap.Session.Settings
import BlockHeap.Proofs.Size
import BlockHeap.Proofs.FreeMap.Bits
import BlockHeap.Proofs.FreeMap.Search
import BlockHeap.Proofs.FreeMap.Exact
import BlockHeap.Proofs.FreeMap.Scan
import BlockHeap.Proofs.FreeMap.Refinement
import BlockHeap.Proofs.Arena.Geometry
import BlockHeap.Proofs.Arena.Blocks
import BlockHeap.Proofs.Arena.Held
import BlockHeap.Proofs.Arena.Accounting
import BlockHeap.Proofs.Pool.Protocol
import BlockHeap.Proofs.Heap.Memory
import BlockHeap.Proofs.Os.Space
import BlockHeap.Proofs.Pool.Blocks
import BlockHeap.Proofs.Heap.Sound
import BlockHeap.Proofs.Heap.Apart
import BlockHeap.Proofs.Run.Basic
import BlockHeap.Proofs.Run.Calls
import BlockHeap.Proofs.Run.Sound
import BlockHeap.Proofs.Run.Start
import BlockHeap.Proofs.Run.Separate
import BlockHeap.Proofs.Run.Classes
import BlockHeap.Proofs.Pool.Room
import BlockHeap.Proofs.Pool.Changes
import BlockHeap.Proofs.Run.Undisturbed
import BlockHeap.Proofs.Run.Alone
import BlockHeap.Proofs.Run.Saturate
import BlockHeap.Proofs.Run.Peak
import BlockHeap.Proofs.Threads.Drain
import BlockHeap.Proofs.Heap.Calls
import BlockHeap.Proofs.Heap.Table
import BlockHeap.Proofs.Estate.Accounted
import BlockHeap.Proofs.Run.Drop
import BlockHeap.Proofs.Threads.Full
import BlockHeap.Proofs.Heap.Exhausted
import BlockHeap.Proofs.Run.Journal
import BlockHeap.Proofs.Run.Watched
import BlockHeap.Proofs.Run.Exhausted
import BlockHeap.Proofs.Product.Told
import BlockHeap.Proofs.Product.Twin
import BlockHeap.Proofs.Product.Calls
import BlockHeap.Proofs.Product.Runs
import BlockHeap.Proofs.Product.Registry
import BlockHeap.Proofs.Arena.Evolves
import BlockHeap.Proofs.Pool.Honest
import BlockHeap.Proofs.Heap.Outcome
import BlockHeap.Proofs.Heap.Leads
import BlockHeap.Proofs.Heap.Path
import BlockHeap.Proofs.Heap.Ends
import BlockHeap.Proofs.Pool.Guard
import BlockHeap.Proofs.Run.Onward
import BlockHeap.Proofs.Run.Guarded
import BlockHeap.Proofs.Checked.FreeMap
import BlockHeap.Proofs.Checked.Shape
import BlockHeap.Proofs.Checked.Arena
import BlockHeap.Proofs.Checked.Call
import BlockHeap.Proofs.Careless.Basic
import BlockHeap.Proofs.Careless.Safe
import BlockHeap.Proofs.Pool.Grew
import BlockHeap.Proofs.Careless.Course
import BlockHeap.Proofs.Careless.Thrift
import BlockHeap.Proofs.Careless.Rounds
import BlockHeap.Proofs.FreeMap.Fair
import BlockHeap.Proofs.Pool.Returns
import BlockHeap.Proofs.Run.Returns
import BlockHeap.Proofs.Run.Grounded
import BlockHeap.Proofs.Typed.Requests
import BlockHeap.Proofs.Typed.Runs
import BlockHeap.Proofs.Heap.Objects
import BlockHeap.Proofs.Owned.Lends
import BlockHeap.Proofs.Owned.Owns
import BlockHeap.Proofs.Owned.Boxes
import BlockHeap.Proofs.Owned.Owner
import BlockHeap.Proofs.Owned.Conserved

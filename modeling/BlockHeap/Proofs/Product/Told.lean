import BlockHeap.Proofs.Os.Space

/-!
# An operating system that was told its answers

`Os.told` answers the requests for mappings one after the other as it was told: with an address, or with a refusal. It
is sound, since it refuses an address that must not be granted. When it was told what another, sound operating system
has answered, and nothing is mapped there that is not mapped with the other, it gives the same answers
(`Sound.map_told`).
-/

namespace BlockHeap

/-- The answer to each request, as long as it may be given. -/
def toldPlacement (script : List (Option Nat)) : Placement := fun s len =>
  script[s.requests]?.join.filter fun start =>
    pageSize ∣ start ∧ 0 < start ∧ start + len ≤ Size.limit ∧ ∀ m ∈ s.live, m.Disjoint ⟨start, len⟩

theorem toldPlacement_sound (script : List (Option Nat)) : (toldPlacement script).Sound := by
  intro s len start _ h
  simpa using (Option.filter_eq_some_iff.mp h).2

/-- The mappings in hand, with those of a result added. -/
def inHand {ε α : Type} (f : α → Multiset Mapping) (own : Multiset Mapping) : Except ε α → Multiset Mapping
  | .ok x => f x + own
  | .error _ => own

namespace Os

/-- An operating system with nothing mapped that was told its answers. -/
def told (script : List (Option Nat)) : Os := ⟨⟨[], 0, 0, 0⟩, toldPlacement script⟩

theorem told_sound (script : List (Option Nat)) : (told script).Sound := .of_empty (toldPlacement_sound script) rfl

/-- The address that a request was answered with. -/
def outcome : Except OsError Mapping → Option Nat
  | .ok m => some m.start
  | .error _ => none

/-- What is left of a script after one answer. -/
theorem drop_eq_cons {α : Type} {l rest : List α} {n : Nat} {x : α} (h : l.drop n = x :: rest) :
    l[n]? = some x ∧ l.drop (n + 1) = rest := by
  constructor
  · rw [← List.head?_drop, h, List.head?_cons]
  · rw [← List.tail_drop, h, List.tail_cons]

/-- **Doing as one was told**: the same answer, and the same mapping more. -/
theorem Sound.map_told {os t : Os} (h : os.Sound) {script rest : List (Option Nat)} {size : Nat} (hsize : size ≠ 0)
    (refuse : Bool) (hplace : t.place = toldPlacement script)
    (hscript : script.drop t.space.requests = outcome (os.map size refuse).1 :: rest)
    (hlive : (t.space.live : Multiset Mapping) ≤ os.space.live) :
    (t.map size false).1 = (os.map size refuse).1 ∧ (t.map size false).2.place = toldPlacement script ∧
      script.drop (t.map size false).2.space.requests = rest ∧
      ((t.map size false).2.space.live : Multiset Mapping) = inHand ({·}) t.space.live (os.map size refuse).1 := by
  obtain ⟨hnext, hrest⟩ := drop_eq_cons hscript
  unfold Os.map at hnext ⊢
  simp only [hsize, if_false, Bool.false_eq_true, hplace] at hnext ⊢
  cases hos : (if refuse then none else os.place os.space (Size.roundUp size pageSize)) with
  | none =>
    have hnone : toldPlacement script t.space (Size.roundUp size pageSize) = none := by
      simp only [hos] at hnext
      simp [toldPlacement, hnext, outcome]
    simp only [hnone]
    exact ⟨trivial, trivial, hrest, rfl⟩
  | some start =>
    have hgrant : os.place os.space (Size.roundUp size pageSize) = some start := by
      split at hos
      · cases hos
      · exact hos
    have hallowed := h.place _ _ _ (fun m hm => (h.fits m hm).stop_le_top) hgrant
    have hsome : toldPlacement script t.space (Size.roundUp size pageSize) = some start := by
      simp only [hos] at hnext
      obtain ⟨h1, h2, h3, h4⟩ := hallowed
      simp only [toldPlacement, hnext, outcome, Option.join_some, Option.filter_eq_some_iff, decide_eq_true_eq,
        true_and]
      exact ⟨h1, h2, h3, fun m hm => h4 m (Multiset.mem_of_le hlive hm)⟩
    simp only [hsome]
    exact ⟨trivial, trivial, hrest, rfl⟩

end Os

end BlockHeap

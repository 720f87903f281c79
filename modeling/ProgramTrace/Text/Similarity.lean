import ProgramTrace.Text.Utf8

/-!
# `ProgramTrace.Text.Similarity` — how alike two words are.

Jaro similarity counts the characters that two words have in common, each at most a window apart, and how
many of these stand in another order.  `Similarity.score` is the number between 0 and 1 that comes of it,
rounded as double-precision arithmetic rounds; `Similarity.closest?` picks from a list of words the one
most like a given word, if any comes above the threshold.
-/

namespace ProgramTrace.Similarity

/-! ## Common characters -/

/-- How far apart two equal characters may stand to count as common. -/
def window (a b : Text) : Nat := max a.length b.length / 2 - 1

/-- Marks the first unmarked `c` among the characters whose places run from `place` on and lie between
`low` and `high`; `none` if there is none. -/
def mark (c : Char) (low high : Nat) : Nat → List (Char × Bool) → Option (List (Char × Bool))
  | _, [] => none
  | place, (d, taken) :: rest =>
    if low ≤ place ∧ place < high ∧ c = d ∧ taken = false then some ((d, true) :: rest)
    else (mark c low high (place + 1) rest).map ((d, taken) :: ·)

/-- The characters of the first word that are common, in its order, and the second word with the marks
that they leave. -/
def common (reach : Nat) : Nat → Text → List (Char × Bool) → Text × List (Char × Bool)
  | _, [], marked => ([], marked)
  | place, c :: cs, marked =>
    match mark c (place - reach) (place + reach + 1) 0 marked with
    | some marked' =>
      let (found, final) := common reach (place + 1) cs marked'
      (c :: found, final)
    | none => common reach (place + 1) cs marked

/-! ## The score -/

def score (a b : Text) : Float :=
  if a = [] ∧ b = [] then 1.0
  else
    let (found, marked) := common (window a b) 0 a (b.map (·, false))
    let matched := (marked.filter (·.2)).map (·.1)
    let moved := ((found.zip matched).filter fun p => p.1 ≠ p.2).length / 2
    let count := found.length
    if count = 0 then 0.0
    else
      (count.toFloat / a.length.toFloat + count.toFloat / b.length.toFloat
        + (count - moved).toFloat / count.toFloat) / 3.0

/-- Of the words scoring above 0.7, the one that scores most; the later one if two score the same. -/
def closest? (word : Text) (known : List Text) : Option Text :=
  (known.foldl (fun best k =>
    let s := score word k
    if 0.7 < s ∧ best.all (fun b => b.2 ≤ s) then some (k, s) else best)
    (none : Option (Text × Float))).map (·.1)

theorem mem_of_closest? {word k : Text} {known : List Text} (h : closest? word known = some k) :
    k ∈ known := by
  obtain ⟨best, picked, rfl⟩ := Option.map_eq_some_iff.mp h
  clear h
  revert best
  -- The best so far is always one of those that have been looked at.
  apply List.foldlRecOn known _ (motive := fun best => ∀ b : Text × Float, best = some b → b.1 ∈ known)
  · exact nofun
  · intro best sofar k mem b
    dsimp only
    split
    · rintro ⟨⟩
      exact mem
    · exact sofar b

end ProgramTrace.Similarity

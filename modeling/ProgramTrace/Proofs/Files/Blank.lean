import ProgramTrace.Proofs.Files.Extension

/-!
# `ProgramTrace.Proofs.Files.Blank` — no path is led by what files hold.

A store can be looked at with every file empty (`Store.blank`).  Walking a path and opening it give the same
there (`locate_blank`, `make_blank`), as they look at names and at what kind of node stands under them, never
at contents.
-/

namespace ProgramTrace.Files

namespace Store

/-- A store with every file empty. -/
def blank (s : Store) : Store := { s with nodes := s.nodes.map (Node.withContents fun _ => []) }

/-! ## What a store shows -/

theorem node?_blank (s : Store) (i : Nat) :
    s.blank.node? i = (s.node? i).map (Node.withContents fun _ => []) :=
  List.getElem?_map ..

@[simp] theorem entries_blank (s : Store) (d : Nat) : s.blank.entries d = s.entries d := by
  unfold entries
  rw [node?_blank]
  cases s.node? d with
  | none => rfl
  | some n => cases n <;> rfl

@[simp] theorem entry?_blank (s : Store) (d : Nat) (name : Text) :
    s.blank.entry? d name = s.entry? d name := by
  unfold entry?
  rw [entries_blank]

@[simp] theorem parent_blank (s : Store) (d : Nat) : s.blank.parent d = s.parent d := by
  unfold parent
  rw [node?_blank]
  cases s.node? d with
  | none => rfl
  | some n => cases n <;> rfl

/-! ## Walking -/

theorem walkWith_blank (s : Store) (p : Purpose) (jump : Nat → List Text → Except Fault Place) (d : Nat)
    (xs : List Text) : s.blank.walkWith p jump d xs = s.walkWith p jump d xs := by
  induction xs generalizing d with
  | nil => rfl
  | cons name rest ih =>
    simp only [walkWith, parent_blank, entry?_blank, ih]
    cases s.entry? d name with
    | none => rfl
    | some i =>
      simp only [node?_blank]
      cases s.node? i with
      | none => rfl
      | some n => cases n <;> rfl

theorem walk_blank (s : Store) (p : Purpose) (links : Nat) : s.blank.walk p links = s.walk p links := by
  induction links with
  | zero =>
    funext d xs
    exact walkWith_blank ..
  | succ links ih =>
    funext d xs
    show s.blank.walkWith p (s.blank.walk p links) d xs = s.walkWith p (s.walk p links) d xs
    rw [ih, walkWith_blank]

/-- A path leads to the same place. -/
theorem locate_blank (s : Store) (p : Purpose) (path : Text) : s.blank.locate p path = s.locate p path := by
  unfold locate
  rw [walk_blank]
  rfl

/-! ## Writing -/

/-- What is written to a file does not show. -/
theorem blank_modify (s : Store) (i : Nat) (f : Bytes → Bytes) : (s.modify i f).blank = s.blank := by
  unfold modify
  split
  · rename_i c x node
    have same : (s.nodes.map (Node.withContents fun _ => []))[i]? = some (.file [] x) := by
      rw [List.getElem?_map]
      exact congrArg (Option.map _) node
    obtain ⟨inside, same⟩ := List.getElem?_eq_some_iff.mp same
    simp only [blank, put, List.map_set, Node.withContents]
    rw [← same, List.set_getElem_self]
  · rfl

/-- An empty file is made in the same place. -/
theorem insert_blank (s : Store) (d : Nat) (name : Text) (x : Bool) :
    s.blank.insert d name (.file [] x) =
      ((s.insert d name (.file [] x)).1, (s.insert d name (.file [] x)).2.blank) := by
  have added : (s.add (.file [] x)).2.blank = (s.blank.add (.file [] x)).2 := by
    simp [add, blank, Node.withContents]
  have reentered : ∀ (t : Store) (f), (t.reenter d f).blank = t.blank.reenter d f := by
    intro t f
    unfold reenter
    rw [node?_blank]
    cases t.node? d with
    | none => rfl
    | some n => cases n <;> simp [put, blank, Node.withContents]
  have place : s.blank.nodes.length = s.nodes.length := List.length_map ..
  simp only [insert, reentered, added]
  rw [show (s.blank.add (.file [] x)).1 = (s.add (.file [] x)).1 from place]

/-- **Opening a path does the same**, whatever files hold. -/
theorem make_blank (s : Store) (path : Text) :
    s.blank.make path = (s.make path).map fun (i, t) => (i, t.blank) := by
  unfold make
  rw [locate_blank]
  split
  · rfl
  cases s.locate .make path with
  | error f => rfl
  | ok a =>
    simp only [bind, Except.bind]
    cases a with
    | vacant d name =>
      simp only [insert_blank]
      rfl
    | node i =>
      simp only [node?_blank]
      cases s.node? i with
      | none => rfl
      | some n =>
        cases n with
        | device v => cases v <;> rfl
        | _ => rfl

end Store

end ProgramTrace.Files

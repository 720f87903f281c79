import ProgramTrace.Proofs.Files.Extension

/-!
# `ProgramTrace.Proofs.Files.Walk` — writing files moves no path.

Where a path leads to a node, it leads to the same node in every extension of the store, with links, limits
and slashes at its end as they are (`locate_extends`).  The same holds where the path was walked to make a
file: the two walks differ only in the step that a slash at the end asks for (`Twin`), and where the first
ends at a free name, the second ends at the file that has got it.  So a path that has been opened denotes
from then on what was opened (`find_of_make`), whatever else is written.
-/

namespace ProgramTrace.Files

/-- What ends a path: neither a directory, which is entered, nor a link, which is followed. -/
def Node.isLeaf : Node → Bool
  | .directory .. | .link _ => false
  | _ => true

theorem Node.isLeaf_kind (n : Node) : n.kind.isLeaf = n.isLeaf := by
  cases n <;> rfl

/-! ## Steps -/

/-- Steps of a walk that makes a file, and of one that looks for it. -/
inductive Twin : List Text → List Text → Prop where
  | nil : Twin [] []
  | ending : Twin [['/']] [['.']]
  | cons {xs ys : List Text} (name : Text) : Twin xs ys → Twin (name :: xs) (name :: ys)

namespace Twin

variable {xs ys : List Text}

theorem refl : (xs : List Text) → Twin xs xs
  | [] => .nil
  | name :: xs => .cons name (refl xs)

theorem append (h : Twin xs ys) : (before : List Text) → Twin (before ++ xs) (before ++ ys)
  | [] => h
  | name :: before => .cons name (h.append before)

/-- The two end together. -/
theorem nil_iff (h : Twin xs ys) : xs = [] ↔ ys = [] := by
  cases h <;> simp

/-- Where the second asks for a step that is no name, the first asks for it too. -/
theorem eq_of_right (h : Twin xs [['/']]) : xs = [['/']] := by
  cases h with
  | cons _ rest => cases rest; rfl

/-- The steps along a path for either walk. -/
theorem steps {p : Store.Purpose} (h : p ≠ .own) (path : Text) :
    Twin (Path.steps p.ending path) (Path.steps Store.Purpose.use.ending path) := by
  cases p with
  | use => exact refl _
  | own => exact absurd rfl h
  | make =>
    refine append ?_ _
    split
    · exact .ending
    · exact .nil

/-- The steps that follow a link for either walk. -/
theorem follow {p : Store.Purpose} (h : p ≠ .own) (w : Twin xs ys) (target : Text) :
    Twin (if xs = [] then Path.steps p.ending target else Path.steps ['.'] target ++ xs)
      (if ys = [] then Path.steps Store.Purpose.use.ending target
        else Path.steps ['.'] target ++ ys) := by
  by_cases last : xs = []
  · rw [if_pos last, if_pos (w.nil_iff.mp last)]
    exact steps h target
  · rw [if_neg last, if_neg (mt w.nil_iff.mpr last)]
    exact w.append _

end Twin

namespace Store

variable {s t u : Store} {p : Purpose}

/-! ## Single steps -/

/-- A name that is looked up in a directory, and what follows it. -/
structure IsName (name : Text) (rest : List Text) : Prop where
  here : ¬(name = ['.'] ∨ name = ['/'])
  up : name ≠ ['.', '.']
  slash : rest ≠ [['/']]
  short : ¬nameLimit < name.toUtf8.length

/-- The ways in which a walk that ends takes its first step.  A walk that does not follow the last link is
left out. -/
inductive Stride (s : Store) (p : Purpose) (jump : Nat → List Text → Except Fault Place) (d : Nat)
    (name : Text) (rest : List Text) (a : Place) : Prop where
  | stay (h : name = ['.'] ∨ name = ['/']) (ends : s.walkWith p jump d rest = .ok a)
  | up (h : name = ['.', '.']) (ends : s.walkWith p jump (s.parent d) rest = .ok a)
  | enter {i q : Nat} {es : List (Text × Nat)} (h : IsName name rest) (entry : s.entry? d name = some i)
      (node : s.node? i = some (.directory q es)) (ends : s.walkWith p jump i rest = .ok a)
  | follow {i : Nat} {target : Text} (h : IsName name rest) (entry : s.entry? d name = some i)
      (node : s.node? i = some (.link target))
      (ends : jump (if Path.isAbsolute target then root else d)
        (if rest = [] then Path.steps p.ending target else Path.steps ['.'] target ++ rest) = .ok a)
  | arrive {i : Nat} {n : Node} (h : IsName name rest) (entry : s.entry? d name = some i)
      (node : s.node? i = some n) (leaf : n.isLeaf) (last : rest = []) (ends : .node i = a)
  | free (h : IsName name rest) (entry : s.entry? d name = none) (last : rest = [])
      (ends : .vacant d name = a)

/-- A walk takes its first step in one of these ways. -/
theorem walkWith_cons_iff (hp : p ≠ .own) {jump : Nat → List Text → Except Fault Place} {d : Nat}
    {name : Text} {rest : List Text} {a : Place} :
    s.walkWith p jump d (name :: rest) = .ok a ↔ Stride s p jump d name rest a := by
  constructor
  · intro h
    rw [walkWith] at h
    split at h
    · exact .stay ‹_› h
    split at h
    · exact .up ‹_› h
    split at h
    · cases h
    split at h
    · cases h
    have ordinary : IsName name rest := ⟨‹_›, ‹_›, ‹_›, ‹_›⟩
    split at h
    · split at h
      · exact .free ordinary ‹_› ‹_› (Except.ok.inj h)
      · cases h
    · split at h
      · rw [if_neg (fun c => hp c.2)] at h
        exact .follow ordinary ‹_› ‹_› h
      · exact .enter ordinary ‹_› ‹_› h
      case h_3 n link directory node =>
        have leaf : n.isLeaf := by
          cases n with
          | link target => exact absurd rfl (link target)
          | directory q es => exact absurd rfl (directory q es)
          | _ => rfl
        split at h
        · exact .arrive ordinary ‹_› node leaf ‹_› (Except.ok.inj h)
        · cases h
      · cases h
  · intro h
    rw [walkWith]
    cases h with
    | stay h ends => rw [if_pos h, ends]
    | up h ends =>
      subst h
      exact ends
    | enter h entry node ends =>
      rw [if_neg h.here, if_neg h.up, if_neg h.slash, if_neg h.short]
      simp only [entry, node, ends]
    | follow h entry node ends =>
      rw [if_neg h.here, if_neg h.up, if_neg h.slash, if_neg h.short]
      simp only [entry, node]
      rw [if_neg (fun c => hp c.2), ends]
    | @arrive i n h entry node leaf last ends =>
      rw [if_neg h.here, if_neg h.up, if_neg h.slash, if_neg h.short]
      cases n with
      | link | directory => cases leaf
      | _ => simp only [entry, node, if_pos last, ends]
    | free h entry last ends =>
      rw [if_neg h.here, if_neg h.up, if_neg h.slash, if_neg h.short]
      simp only [entry, if_pos last, ends]

/-! ## Walks -/

/-- What holds of a walk that follows no link, and of a walk if it holds of what follows a link, holds of every
walk. -/
theorem walk_induction (P : (Nat → List Text → Except Fault Place) → Prop)
    (none : P fun _ _ => .error .tooManyLinks) (one : ∀ jump, P jump → P (s.walkWith p jump)) (links : Nat) :
    P (s.walk p links) := by
  induction links with
  | zero => exact one _ none
  | succ links ih => exact one _ ih

/-- Where a walk ends when files have been made since: a name that was free may be taken. -/
def Place.since (t : Store) : Place → Place
  | .node i => .node i
  | .vacant d name =>
    match t.entry? d name with
    | some i => .node i
    | none => .vacant d name

/-- A walk ends where it ended, if this holds of what follows a link. -/
theorem walkWith_extends (e : s.Extends t) (hp : p ≠ .own)
    {jump jump' : Nat → List Text → Except Fault Place}
    (hj : ∀ {d xs ys a}, Twin xs ys → jump d xs = .ok a → jump' d ys = .ok (a.since t))
    {xs ys : List Text} (w : Twin xs ys) {d : Nat} {a : Place}
    (h : s.walkWith p jump d xs = .ok a) : t.walkWith .use jump' d ys = .ok (a.since t) := by
  induction w generalizing d with
  | nil =>
    rw [walkWith, Except.ok.injEq] at h
    rw [walkWith, ← h, Place.since]
  | ending =>
    simp only [walkWith, or_true, true_or, if_true, Except.ok.injEq] at h ⊢
    rw [← h, Place.since]
  | @cons xs ys name w ih =>
    have named (h : IsName name xs) : IsName name ys :=
      { h with slash := fun c => h.slash (Twin.eq_of_right (c ▸ w)) }
    rw [walkWith_cons_iff hp] at h
    rw [walkWith_cons_iff (by simp)]
    cases h with
    | stay h ends => exact .stay h (ih ends)
    | up h ends => exact .up h (e.parent d ▸ ih ends)
    | enter h entry node ends =>
      obtain ⟨es, node'⟩ := e.directory node
      exact .enter (named h) (e.entry entry) node' (ih ends)
    | follow h entry node ends =>
      exact .follow (named h) (e.entry entry) (e.link node) (hj (w.follow hp _) ends)
    | @arrive i n h entry node leaf last ends =>
      obtain ⟨m, node', k⟩ := e.kind node
      have leaf' : m.isLeaf := by
        rw [← Node.isLeaf_kind, k, Node.isLeaf_kind, leaf]
      exact .arrive (named h) (e.entry entry) node' leaf' (w.nil_iff.mp last) (by rw [← ends, Place.since])
    | free h entry last ends =>
      obtain rfl := ends
      -- By now the name may be taken, but only by a file.
      cases ht : t.entry? d name with
      | none =>
        refine .free (named h) ht (w.nil_iff.mp last) ?_
        simp only [Place.since, ht]
      | some i =>
        obtain ⟨c, x, node⟩ := e.named entry ht
        refine .arrive (named h) ht node rfl (w.nil_iff.mp last) ?_
        simp only [Place.since, ht]

/-- A walk ends where it ended. -/
theorem walk_extends (e : s.Extends t) (hp : p ≠ .own) {links d : Nat} {xs ys : List Text}
    {a : Place} (w : Twin xs ys) (h : s.walk p links d xs = .ok a) :
    t.walk .use links d ys = .ok (a.since t) := by
  -- On the links: a walk with one more is a walk that follows a link by a walk with one less.
  induction links generalizing d xs ys a with
  | zero => exact walkWith_extends e hp (fun _ h => by cases h) w h
  | succ links ih =>
    refine walkWith_extends e hp ?_ w h
    exact ih

/-- A path that is neither empty nor too long leads where its walk ends. -/
theorem locate_eq_ok_iff {path : Text} {a : Place} :
    s.locate p path = .ok a ↔ (path ≠ [] ∧ ¬pathLimit < path.toUtf8.length) ∧
      s.walk p linkLimit (if Path.isAbsolute path then root else s.here) (Path.steps p.ending path) = .ok a := by
  unfold locate
  by_cases empty : path = []
  · simp [empty]
  by_cases long : pathLimit < path.toUtf8.length
  · simp [empty, long]
  · simp [empty, long]

/-- A path leads where it led. -/
theorem locate_extends (e : s.Extends t) (hp : p ≠ .own) {path : Text} {a : Place}
    (h : s.locate p path = .ok a) : t.locate .use path = .ok (a.since t) := by
  rw [locate_eq_ok_iff] at h ⊢
  rw [e.here]
  exact ⟨h.1, walk_extends e hp (Twin.steps hp path) h.2⟩

/-- What a path finds is where it leads, if that is a node. -/
theorem find_eq_ok_iff {path : Text} {i : Nat} :
    s.find path = .ok i ↔ s.locate .use path = .ok (.node i) := by
  unfold find
  cases s.locate .use path with
  | error f => simp [bind, Except.bind]
  | ok a => cases a <;> simp [bind, Except.bind]

/-- A path that led to a node leads to the same node. -/
theorem find_of_locate (e : s.Extends t) (hp : p ≠ .own) {path : Text} {i : Nat}
    (h : s.locate p path = .ok (.node i)) : t.find path = .ok i :=
  find_eq_ok_iff.mpr (locate_extends e hp h)

/-- A path that leads to a node leads to it when more has been written. -/
theorem find_extends (e : s.Extends t) {path : Text} {i : Nat} (h : s.find path = .ok i) :
    t.find path = .ok i :=
  find_of_locate e (by simp) (find_eq_ok_iff.mp h)

/-- What it is for a path to lead to a device. -/
theorem device?_eq_some_iff {path : Text} {d : Device} :
    s.device? path = some d ↔ ∃ i, s.find path = .ok i ∧ s.node? i = some (.device d) := by
  unfold device?
  cases s.find path with
  | error f => simp
  | ok i =>
    cases node : s.node? i with
    | none => simp [node]
    | some n => cases n <;> simp [node]

/-- A path that leads to a device leads to it when more has been written. -/
theorem device?_extends (e : s.Extends t) {path : Text} {d : Device} (h : s.device? path = some d) :
    t.device? path = some d := by
  obtain ⟨i, found, node⟩ := device?_eq_some_iff.mp h
  exact device?_eq_some_iff.mpr ⟨i, find_extends e found, e.device node⟩

/-! ## Free names -/

/-- A walk that ends at a free name ends at one, if this holds of what follows a link. -/
theorem walkWith_vacant (hp : p ≠ .own) {jump : Nat → List Text → Except Fault Place}
    (hj : ∀ {d xs e name}, jump d xs = .ok (.vacant e name) → s.entry? e name = none)
    {xs : List Text} {d e : Nat} {name : Text} (h : s.walkWith p jump d xs = .ok (.vacant e name)) :
    s.entry? e name = none := by
  induction xs generalizing d with
  | nil => cases h
  | cons x xs ih =>
    rw [walkWith_cons_iff hp] at h
    cases h with
    | stay _ ends => exact ih ends
    | up _ ends => exact ih ends
    | enter _ _ _ ends => exact ih ends
    | follow _ _ _ ends => exact hj ends
    | arrive _ _ _ _ _ ends => cases ends
    | free _ entry _ ends =>
      cases ends
      exact entry

/-- A name that a path leads to and that is free has no node. -/
theorem locate_vacant (hp : p ≠ .own) {path : Text} {d : Nat} {name : Text}
    (h : s.locate p path = .ok (.vacant d name)) : s.entry? d name = none := by
  rw [locate_eq_ok_iff] at h
  have vacant : ∀ {d xs e name}, s.walk p linkLimit d xs = .ok (.vacant e name) → s.entry? e name = none :=
    walk_induction (fun jump => ∀ {d xs e name}, jump d xs = .ok (.vacant e name) → s.entry? e name = none)
      (fun h => by cases h) (fun _ ih => walkWith_vacant hp ih) linkLimit
  exact vacant h.2

/-! ## Files that are made -/

/-- A path that is opened led to what is opened, or its name was free and a file has got it. -/
theorem make_cases {path : Text} {i : Nat} (h : s.make path = .ok (i, t)) :
    (s.locate .make path = .ok (.node i) ∧ t = s ∧
        ∃ n, s.node? i = some n ∧ ∀ name, n ≠ .program name) ∨
      ∃ d name, s.locate .make path = .ok (.vacant d name) ∧
        s.insert d name (.file [] false) = (i, t) := by
  unfold make at h
  split at h
  · cases h
  cases located : s.locate .make path with
  | error f => simp [located, bind, Except.bind] at h
  | ok a =>
    simp only [located, bind, Except.bind] at h
    cases a with
    | vacant d name => exact .inr ⟨d, name, rfl, Except.ok.inj h⟩
    | node j =>
      simp only at h
      split at h
      case h_5 n _ program _ node =>
        cases h
        exact .inl ⟨rfl, rfl, n, node, program⟩
      all_goals cases h

/-- Opening a path extends a store. -/
theorem extends_make {path : Text} {i : Nat} (h : s.make path = .ok (i, t)) : s.Extends t := by
  obtain ⟨-, rfl, -⟩ | ⟨d, name, -, new⟩ := make_cases h
  · exact .refl t
  · exact (Prod.mk.inj new).2 ▸ extends_insert s d name [] false

/-- What a path has opened is there, and no program of the system. -/
theorem node?_make {path : Text} {i : Nat} (h : s.make path = .ok (i, t)) :
    ∃ n, t.node? i = some n ∧ ∀ name, n ≠ .program name := by
  obtain ⟨-, rfl, there⟩ | ⟨d, name, -, new⟩ := make_cases h
  · exact there
  · obtain ⟨rfl, rfl⟩ := Prod.mk.inj new
    exact ⟨_, node?_insert_file s d name [] false, by simp⟩

/-- Opening a path leaves the contents of what was there. -/
theorem contents?_make {path : Text} {i j : Nat} {n : Node} (h : s.make path = .ok (i, t))
    (old : s.node? j = some n) : t.contents? j = s.contents? j := by
  obtain ⟨-, rfl, -⟩ | ⟨d, name, -, new⟩ := make_cases h
  · rfl
  · have ne : j ≠ s.nodes.length := fun e => by simp [e, node?_length] at old
    exact (Prod.mk.inj new).2 ▸ contents?_insert_of_ne s d name _ ne

/-- A path that has opened what was there leads to it from then on. -/
theorem find_of_make_old {path : Text} {i : Nat} {n : Node} (h : s.make path = .ok (i, t))
    (e : t.Extends u) (old : s.node? i = some n) : u.find path = .ok i := by
  obtain ⟨led, rfl, -⟩ | ⟨d, name, -, new⟩ := make_cases h
  · exact find_of_locate e (by simp) led
  · obtain ⟨rfl, -⟩ := Prod.mk.inj new
    exact absurd (old.symm.trans s.node?_length) (by simp)

/-- **A path that has been opened leads to what was opened**, if to anything, whatever has been written
since. -/
theorem find_of_make {path : Text} {i j : Nat} (h : s.make path = .ok (i, t)) (e : t.Extends u)
    (found : u.find path = .ok j) : j = i := by
  obtain ⟨led, rfl, -⟩ | ⟨d, name, led, new⟩ := make_cases h
  · exact Except.ok.inj (found.symm.trans (find_of_locate e (by simp) led))
  · obtain ⟨rfl, rfl⟩ := Prod.mk.inj new
    have made := extends_insert s d name [] false
    rw [find, locate_extends (made.trans e) (by simp) led] at found
    -- The name leads somewhere now, so that its directory is one, and was one when the file was made.
    cases entry : u.entry? d name with
    | none =>
      simp only [Place.since, entry, bind, Except.bind] at found
      cases found
    | some k =>
      obtain ⟨q, es, directory⟩ := exists_directory_of_entry? entry
      obtain ⟨es, directory⟩ := (made.trans e).directory_inv directory
      have here : entry? (s.insert d name (.file [] false)).2 d name = some s.nodes.length :=
        entry?_insert_file [] false (by rw [directory]; rfl) (locate_vacant (by simp) led)
      simp only [Place.since, e.entry here, bind, Except.bind] at found
      exact (Except.ok.inj found).symm

/-- A path that has been opened leads to a device only if it has done so since. -/
theorem device?_of_make {path : Text} {i : Nat} {v : Store} (h : s.make path = .ok (i, t)) (e : t.Extends u)
    (e' : u.Extends v) {d : Device} (led : v.device? path = some d) : u.device? path = some d := by
  obtain ⟨j, found, node⟩ := device?_eq_some_iff.mp led
  obtain rfl := find_of_make h (e.trans e') found
  have old := ((extends_make h).trans (e.trans e')).device_inv node
  exact device?_eq_some_iff.mpr ⟨j, find_of_make_old h e old, e'.device_inv node⟩

end Store

end ProgramTrace.Files

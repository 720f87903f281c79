import ProgramTrace.Proofs.Files.Walk

/-!
# `ProgramTrace.Proofs.Files.Sound` — a path leads nowhere new, unless a file was made under its name.

Writing files moves no path that leads to a node.  Here is the converse, for stores in which every place that a
walk can come to is there (`Store.Sound`): a walk in an extension ends where it ended before, or at a file that has
got a name which was free (`walkWith_since`).  When a file is made there is only one such name, and the path that was
opened leads to it as well (`find_of_make_new`).  So a path that leads to another file afterwards denotes what was
opened.  `Store.fileAt?` is what a path can show of the files: `fileAt?_of_extends` says when an extension
leaves it as it was.
-/

namespace ProgramTrace.Files

theorem Node.isDirectory_kind (n : Node) : n.kind.isDirectory = n.isDirectory := by
  cases n <;> rfl

/-- The places that a node refers to. -/
def Node.places : Node → List Nat
  | .directory p es => p :: es.map (·.2)
  | _ => []

namespace Store

variable {s t u : Store}

/-! ## Sound stores -/

/-- Every place that a walk can come to is there. -/
structure Sound (s : Store) : Prop where
  root : ∃ n, s.node? root = some n
  here : ∃ n, s.node? s.here = some n
  /-- The directory around a directory is there. -/
  parent {d q : Nat} {es : List (Text × Nat)} : s.node? d = some (.directory q es) →
    ∃ n, s.node? q = some n
  /-- What a name leads to is there. -/
  entry {d i : Nat} {name : Text} : s.entry? d name = some i → ∃ n, s.node? i = some n

/-- A store is sound if no node of it refers to a place beyond it. -/
theorem sound_of_places (start : root < s.nodes.length ∧ s.here < s.nodes.length)
    (inside : ∀ i ∈ s.nodes.flatMap Node.places, i < s.nodes.length) : s.Sound := by
  have there : ∀ {i : Nat}, i < s.nodes.length → ∃ n, s.node? i = some n :=
    fun h => ⟨_, List.getElem?_eq_getElem h⟩
  have referred : ∀ {d i : Nat} {n : Node}, s.node? d = some n → i ∈ n.places → ∃ n, s.node? i = some n :=
    fun node mem => there (inside _ (List.mem_flatMap.mpr ⟨_, List.mem_of_getElem? node, mem⟩))
  constructor
  case root => exact there start.1
  case here => exact there start.2
  case parent =>
    intro d q es node
    exact referred node (List.mem_cons_self ..)
  case entry =>
    intro d i name h
    obtain ⟨p, es, node⟩ := exists_directory_of_entry? h
    unfold entry? entries at h
    simp only [node, Option.map_eq_some_iff] at h
    obtain ⟨a, found, rfl⟩ := h
    exact referred node (List.mem_cons_of_mem _ (List.mem_map_of_mem (List.mem_of_find?_eq_some found)))

namespace Extends

/-- Writing files keeps a store sound. -/
theorem sound (e : s.Extends t) (h : s.Sound) : t.Sound := by
  have stays : ∀ {i : Nat}, (∃ n, s.node? i = some n) → ∃ n, t.node? i = some n := by
    rintro i ⟨n, node⟩
    obtain ⟨m, node', -⟩ := e.kind node
    exact ⟨m, node'⟩
  constructor
  case root => exact stays h.root
  case here =>
    rw [e.here]
    exact stays h.here
  case parent =>
    intro d q es node
    obtain ⟨es', node'⟩ := e.directory_inv node
    exact stays (h.parent node')
  case entry =>
    intro d i name taken
    cases old : s.entry? d name with
    | none =>
      obtain ⟨c, x, node⟩ := e.named old taken
      exact ⟨_, node⟩
    | some j =>
      obtain rfl : j = i := Option.some.inj ((e.entry old).symm.trans taken)
      exact stays (h.entry old)

end Extends

/-! ## Walks to what is there -/

/-- A walk that starts where something is ends where something is, if this holds of what follows a link. -/
theorem walkWith_node {p : Purpose} (h : s.Sound) (hp : p ≠ .own)
    {jump : Nat → List Text → Except Fault Place}
    (hj : ∀ {d xs i}, (∃ n, s.node? d = some n) → jump d xs = .ok (.node i) → ∃ n, s.node? i = some n)
    {xs : List Text} {d i : Nat} (start : ∃ n, s.node? d = some n)
    (ends : s.walkWith p jump d xs = .ok (.node i)) : ∃ n, s.node? i = some n := by
  induction xs generalizing d with
  | nil =>
    obtain rfl : d = i := by
      rw [walkWith] at ends
      injection ends with ends
      injection ends
    exact start
  | cons name rest ih =>
    rw [walkWith_cons_iff hp] at ends
    cases ends with
    | stay _ ends => exact ih start ends
    | up _ ends =>
      refine ih ?_ ends
      unfold Store.parent
      split
      · exact h.parent ‹_›
      · exact start
    | enter _ _ node ends => exact ih ⟨_, node⟩ ends
    | follow _ _ _ ends =>
      refine hj ?_ ends
      split
      · exact h.root
      · exact start
    | arrive _ _ node _ _ ends =>
      cases ends
      exact ⟨_, node⟩
    | free _ _ _ ends => cases ends

/-- What a path finds is there. -/
theorem node?_of_find (h : s.Sound) {path : Text} {i : Nat} (found : s.find path = .ok i) :
    ∃ n, s.node? i = some n := by
  rw [find_eq_ok_iff, locate_eq_ok_iff] at found
  have walks : ∀ {d xs i}, (∃ n, s.node? d = some n) → s.walk .use linkLimit d xs = .ok (.node i) →
      ∃ n, s.node? i = some n :=
    walk_induction (fun jump => ∀ {d xs i}, (∃ n, s.node? d = some n) → jump d xs = .ok (.node i) →
        ∃ n, s.node? i = some n)
      (fun _ ends => by cases ends) (fun _ ih => walkWith_node h (by simp) ih) linkLimit
  refine walks ?_ found.2
  split
  · exact h.root
  · exact h.here

/-! ## Walks in an extension -/

/-- A walk in an extension ends where it ended, or at a file that has got a name since, if this holds of what follows
a link. -/
theorem walkWith_since (e : s.Extends t) (h : s.Sound) {jump jump' : Nat → List Text → Except Fault Place}
    (hj : ∀ {d xs a}, jump' d xs = .ok a → ∃ b, jump d xs = .ok b ∧ b.since t = a)
    {xs : List Text} {d : Nat} {a : Place} (ends : t.walkWith .use jump' d xs = .ok a) :
    ∃ b, s.walkWith .use jump d xs = .ok b ∧ b.since t = a := by
  have use : Purpose.use ≠ .own := by simp
  induction xs generalizing d with
  | nil =>
    rw [walkWith, Except.ok.injEq] at ends
    exact ⟨.node d, by rw [walkWith], ends⟩
  | cons name rest ih =>
    rw [walkWith_cons_iff use] at ends
    cases ends with
    | stay name ends =>
      obtain ⟨b, ends, since⟩ := ih ends
      exact ⟨b, (walkWith_cons_iff use).mpr (.stay name ends), since⟩
    | up name ends =>
      rw [e.parent] at ends
      obtain ⟨b, ends, since⟩ := ih ends
      exact ⟨b, (walkWith_cons_iff use).mpr (.up name ends), since⟩
    | enter name entry node ends =>
      obtain ⟨es, node'⟩ := e.directory_inv node
      obtain ⟨b, ends, since⟩ := ih ends
      have entry' := e.entry_inv entry node (by simp)
      exact ⟨b, (walkWith_cons_iff use).mpr (.enter name entry' node' ends), since⟩
    | follow name entry node ends =>
      obtain ⟨b, ends, since⟩ := hj ends
      have entry' := e.entry_inv entry node (by simp)
      exact ⟨b, (walkWith_cons_iff use).mpr (.follow name entry' (e.link_inv node) ends), since⟩
    | @arrive i n name' entry node leaf last ends =>
      cases old : s.entry? d name with
      | none =>
        -- The name was free, and a file has got it since.
        refine ⟨.vacant d name, (walkWith_cons_iff use).mpr (.free name' old last rfl), ?_⟩
        simp only [Place.since, entry]
        exact ends
      | some j =>
        obtain rfl : j = i := Option.some.inj ((e.entry old).symm.trans entry)
        obtain ⟨m, node'⟩ := h.entry old
        obtain ⟨n', node'', k⟩ := e.kind node'
        obtain rfl : n' = n := Option.some.inj (node''.symm.trans node)
        have leaf' : m.isLeaf := by rw [← Node.isLeaf_kind, ← k, Node.isLeaf_kind, leaf]
        exact ⟨.node j, (walkWith_cons_iff use).mpr (.arrive name' old node' leaf' last rfl), ends⟩
    | free name' entry last ends =>
      cases old : s.entry? d name with
      | none =>
        refine ⟨.vacant d name, (walkWith_cons_iff use).mpr (.free name' old last rfl), ?_⟩
        simp only [Place.since, entry]
        exact ends
      | some j => exact absurd ((e.entry old).symm.trans entry) (by simp)

/-- Where a path leads in an extension, it led before, or its name was free. -/
theorem locate_since (e : s.Extends t) (h : s.Sound) {path : Text} {a : Place}
    (led : t.locate .use path = .ok a) : ∃ b, s.locate .use path = .ok b ∧ b.since t = a := by
  have walks : ∀ {links d xs a}, t.walk .use links d xs = .ok a →
      ∃ b, s.walk .use links d xs = .ok b ∧ b.since t = a := by
    intro links
    induction links with
    | zero => exact fun ends => walkWith_since e h (fun ends => by cases ends) ends
    | succ links ih => exact fun ends => walkWith_since e h ih ends
  rw [locate_eq_ok_iff, e.here] at led
  obtain ⟨b, ends, since⟩ := walks led.2
  exact ⟨b, locate_eq_ok_iff.mpr ⟨led.1, ends⟩, since⟩

/-- What a path finds in an extension it found before, or its name was free. -/
theorem find_since (e : s.Extends t) (h : s.Sound) {path : Text} {j : Nat} (found : t.find path = .ok j) :
    s.find path = .ok j ∨ ∃ d name, s.entry? d name = none ∧ t.entry? d name = some j := by
  obtain ⟨b, led, since⟩ := locate_since e h (find_eq_ok_iff.mp found)
  cases b with
  | node i =>
    cases since
    exact .inl (find_eq_ok_iff.mpr led)
  | vacant d name =>
    refine .inr ⟨d, name, locate_vacant (by simp) led, ?_⟩
    cases taken : t.entry? d name with
    | none => simp [Place.since, taken] at since
    | some i => simpa [Place.since, taken] using since

/-! ## Names that are new -/

/-- **A name that opening a path has taken is what the path leads to**, whatever is written after it. -/
theorem find_of_make_new {path name : Text} {i j d : Nat} (h : s.make path = .ok (i, t)) (e : t.Extends u)
    (free : s.entry? d name = none) (taken : t.entry? d name = some j) : u.find path = .ok j := by
  obtain ⟨-, rfl, -⟩ | ⟨d', name', led, new⟩ := make_cases h
  · exact absurd (free.symm.trans taken) (by simp)
  · have extended := (extends_make h).trans e
    obtain ⟨rfl, rfl⟩ := Prod.mk.inj new
    obtain ⟨rfl, rfl, rfl⟩ := eq_of_entry?_insert_file s d' name' free taken
    have led' := locate_extends extended (by simp) led
    simp only [Place.since, e.entry taken] at led'
    exact find_eq_ok_iff.mpr led'

/-! ## Files by path -/

/-- The file that a path leads to as it stands: its place, and its node with all it holds.  A directory is no
file. -/
def fileAt? (s : Store) (path : Text) : Option (Nat × Node) :=
  match s.find path with
  | .ok i => ((s.node? i).filter (!·.isDirectory)).map (i, ·)
  | .error _ => none

/-- What is no directory is the same node if it is one of the same kind with the same contents. -/
theorem node?_eq_of_contents? {i : Nat} {n m : Node} (hs : s.node? i = some n) (ht : t.node? i = some m)
    (k : m.kind = n.kind) (same : t.contents? i = s.contents? i) (other : n.isDirectory = false) :
    m = n := by
  simp only [contents?, hs, ht] at same
  cases n with
  | directory p es => cases other
  | file c x =>
    cases m <;> simp only [Node.kind, Node.file.injEq, reduceCtorEq, true_and] at k
    rw [k, Option.some.inj same]
  | _ =>
    cases m <;> simp only [Node.kind, reduceCtorEq] at k
    exact k

/-- A path shows what it showed before, if it finds nothing that it did not find and the contents of what it found
are the same. -/
theorem fileAt?_of_extends (e : s.Extends t) (h : s.Sound) {path : Text}
    (found : ∀ j, t.find path = .ok j → s.find path = .ok j)
    (kept : ∀ j n, t.find path = .ok j → s.node? j = some n → t.contents? j = s.contents? j) :
    t.fileAt? path = s.fileAt? path := by
  cases hs : s.find path with
  | error f =>
    cases ht : t.find path with
    | error f' => simp only [fileAt?, hs, ht]
    | ok j => exact absurd (hs.symm.trans (found j ht)) (by simp)
  | ok j =>
    have ht := find_extends e hs
    obtain ⟨n, node⟩ := node?_of_find h hs
    obtain ⟨m, node', k⟩ := e.kind node
    simp only [fileAt?, hs, ht, node, node']
    by_cases directory : n.isDirectory
    · have directory' : m.isDirectory := by
        rw [← Node.isDirectory_kind, k, Node.isDirectory_kind, directory]
      simp [Option.filter, directory, directory']
    · rw [node?_eq_of_contents? node node' k (kept j n ht node) (by simpa using directory)]

end Store

end ProgramTrace.Files

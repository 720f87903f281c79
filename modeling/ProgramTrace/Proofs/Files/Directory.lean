import ProgramTrace.Proofs.Files.Walk

/-!
# `ProgramTrace.Proofs.Files.Directory` — a slash at the end, or a `.`, asks for a directory.

A path with a slash after its last name, or with names `.` after it, is walked one step further than that name
(`Path.AsksDirectory`), and that step can only be taken in a directory.  So such a path leads to a directory if
to anything (`Store.isDirectoryAt_of_find`), and never to a regular file.  This takes a store in which the places
where walks start and go up to are directories (`Store.Grounded`), and writing files keeps it so.

Of the paths with one component, those that hold a slash are the absolute ones and those that ask for a directory
(`Path.asksDirectory_of_components`).
-/

namespace ProgramTrace.Files

/-! ## Names of a path -/

namespace Path

/-- A text without the separator is its only part. -/
theorem parts_of_notMem {c : Char} {t : Text} (h : c ∉ t) : Text.parts c t = [t] := by
  induction t with
  | nil => rfl
  | cons x t ih =>
    obtain ⟨first, rest⟩ := List.ne_and_not_mem_of_not_mem_cons h
    rw [Text.parts, if_neg (Ne.symm first), ih rest]

/-- What is before the first separator is the first part. -/
theorem parts_append_cons {c : Char} {t : Text} (h : c ∉ t) (u : Text) :
    Text.parts c (t ++ c :: u) = t :: Text.parts c u := by
  induction t with
  | nil => rw [List.nil_append, Text.parts, if_pos rfl]
  | cons x t ih =>
    obtain ⟨first, rest⟩ := List.ne_and_not_mem_of_not_mem_cons h
    rw [List.cons_append, Text.parts, if_neg (Ne.symm first), ih rest]

/-- A path without a slash is a name. -/
theorem names_of_notMem {p : Text} (ne : p ≠ []) (h : '/' ∉ p) : names p = [p] := by
  simp [names, parts_of_notMem h, ne]

/-- The name before a slash comes before those after it. -/
theorem names_append_cons {n : Text} (ne : n ≠ []) (h : '/' ∉ n) (p : Text) :
    names (n ++ '/' :: p) = n :: names p := by
  simp [names, parts_append_cons h, ne]

/-- A slash that no name follows is at the end. -/
theorem endsWithSlash_of_names {p : Text} (last : names p = []) : endsWithSlash ('/' :: p) := by
  induction p with
  | nil => rfl
  | cons c p ih =>
    by_cases slash : c = '/'
    · subst slash
      have ends := ih (by simpa [names, Text.parts] using last)
      simpa [endsWithSlash, List.getLast?_cons_cons] using ends
    · rw [names, Text.parts, if_neg slash] at last
      split at last <;> simp at last

/-- The first character of a path is that of its first name. -/
theorem isAbsolute_append {n : Text} (ne : n ≠ []) (h : '/' ∉ n) (p : Text) : isAbsolute (n ++ p) = false := by
  cases n with
  | nil => exact absurd rfl ne
  | cons c n => simpa [isAbsolute] using Ne.symm (List.ne_and_not_mem_of_not_mem_cons h).1

/-- A path that holds a slash and is not absolute has a name before its first slash. -/
theorem exists_name_of_slash {p : Text} (slash : '/' ∈ p) (relative : isAbsolute p = false) :
    ∃ n q, n ≠ [] ∧ '/' ∉ n ∧ p = n ++ '/' :: q := by
  obtain ⟨n, q, rfl, h⟩ := List.eq_append_cons_of_mem slash
  refine ⟨n, q, ?_, h, rfl⟩
  rintro rfl
  simp [isAbsolute] at relative

/-! ## Paths to directories -/

/-- Whether the last step along a path is to `.`, which is a step in a directory. -/
def AsksDirectory (p : Text) : Prop := (steps ['.'] p).getLast? = some ['.']

instance (p : Text) : Decidable (AsksDirectory p) := inferInstanceAs (Decidable (_ = _))

theorem Component.ofName_eq_here {n : Text} : Component.ofName n = .here ↔ n = ['.'] := by
  unfold Component.ofName
  split
  · simp_all
  · split <;> simp_all

/-- Where a name is the only component, every name after it is `.`. -/
theorem eq_of_components {n p : Text} (ne : n ≠ []) (h : '/' ∉ n)
    (one : (components (n ++ '/' :: p)).length = 1) : ∀ m ∈ names p, m = ['.'] := by
  have relative := isAbsolute_append ne h ('/' :: p)
  have others : ((names p).map Component.ofName).filter (· ≠ .here) = [] := by
    simp only [components, relative, names_append_cons ne h, List.map_cons, Bool.false_eq_true,
      if_false] at one
    split at one
    case h_1 rest named =>
      obtain ⟨-, rfl⟩ := List.cons.inj named
      simpa using one
    case h_2 named =>
      have counted : Component.ofName n ≠ .here := fun e => named _ (by rw [e])
      simpa [counted] using one
  intro m mem
  rw [List.filter_eq_nil_iff] at others
  simpa [Component.ofName_eq_here] using others _ (List.mem_map_of_mem mem)

/-- A name with a slash after it, and no names but `.` after that, asks for a directory, from wherever it is
walked. -/
theorem asksDirectory_of_names {d n p : Text} (named : d ≠ []) (hd : '/' ∉ d) (ne : n ≠ []) (hn : '/' ∉ n)
    (dots : ∀ m ∈ names p, m = ['.']) : AsksDirectory (d ++ '/' :: (n ++ '/' :: p)) := by
  have walked : names (d ++ '/' :: (n ++ '/' :: p)) = d :: n :: names p := by
    rw [names_append_cons named hd, names_append_cons ne hn]
  unfold AsksDirectory steps
  by_cases last : names p = []
  · have slash : endsWithSlash (d ++ '/' :: (n ++ '/' :: p)) := by
      have ends := endsWithSlash_of_names last
      simp only [endsWithSlash, decide_eq_true_eq] at ends ⊢
      rw [← List.cons_append, ← List.append_assoc, List.getLast?_append, ends]
      rfl
    rw [if_pos slash, List.getLast?_concat]
  · split
    · exact List.getLast?_concat
    · obtain ⟨m, found⟩ := Option.ne_none_iff_exists'.mp (mt List.getLast?_eq_none_iff.mp last)
      rw [walked, List.append_nil, List.getLast?_cons, List.getLast?_cons, found]
      simp [dots m (List.mem_of_getLast? found)]

/-- **A path with one component that holds a slash is absolute, or asks for a directory** from wherever it is
walked. -/
theorem asksDirectory_of_components {d p : Text} (named : d ≠ []) (hd : '/' ∉ d) (slash : '/' ∈ p)
    (one : (components p).length = 1) (relative : isAbsolute p = false) : AsksDirectory (d ++ '/' :: p) := by
  obtain ⟨n, q, ne, h, rfl⟩ := exists_name_of_slash slash relative
  exact asksDirectory_of_names named hd ne h (eq_of_components ne h one)

example : ∀ p ∈ ["f/", "f//", "f/.", "f/./", "./"].map String.toList,
    (components p).length = 1 ∧ AsksDirectory (['.'] ++ '/' :: p) := by decide

/-- A path without a slash has one component, if it is not empty. -/
theorem length_components_of_notMem {p : Text} (h : '/' ∉ p) : (components p).length = 1 ↔ p ≠ [] := by
  by_cases empty : p = []
  · subst empty
    simp [components, names, Text.parts, isAbsolute]
  · have relative : isAbsolute p = false := by simpa using isAbsolute_append empty h []
    simp only [components, relative, names_of_notMem empty h, List.map_cons, List.map_nil, Bool.false_eq_true,
      if_false]
    split <;> simp_all

end Path

namespace Store

variable {s t : Store}

/-! ## Directories in a store -/

/-- Whether there is a directory at a place. -/
def isDirectoryAt (s : Store) (i : Nat) : Bool := (s.node? i).any Node.isDirectory

theorem isDirectoryAt_of_node {i q : Nat} {es : List (Text × Nat)} (node : s.node? i = some (.directory q es)) :
    s.isDirectoryAt i := by
  simp [isDirectoryAt, node, Node.isDirectory]

/-- The places where walks start, and those that a step to `..` goes to, are directories. -/
structure Grounded (s : Store) : Prop where
  root : s.isDirectoryAt root
  here : s.isDirectoryAt s.here
  /-- What is around a directory is a directory. -/
  around {d q : Nat} {es : List (Text × Nat)} : s.node? d = some (.directory q es) → s.isDirectoryAt q

/-- The places that have to be directories. -/
def grounds (s : Store) : List Nat :=
  root :: s.here :: s.nodes.filterMap fun
    | .directory q _ => some q
    | _ => none

theorem grounded_iff : s.Grounded ↔ ∀ i ∈ s.grounds, s.isDirectoryAt i := by
  constructor
  · intro h i mem
    simp only [grounds, List.mem_cons, List.mem_filterMap] at mem
    obtain rfl | rfl | ⟨n, there, found⟩ := mem
    · exact h.root
    · exact h.here
    · obtain ⟨d, node⟩ := List.getElem?_of_mem there
      cases n with
      | directory q es =>
        obtain rfl := Option.some.inj found
        exact h.around node
      | _ => cases found
  · intro h
    constructor
    case root => exact h _ (by simp [grounds])
    case here => exact h _ (by simp [grounds])
    case around =>
      intro d q es node
      refine h q ?_
      simp only [grounds, List.mem_cons, List.mem_filterMap]
      exact .inr (.inr ⟨_, List.mem_of_getElem? node, rfl⟩)

instance : Decidable s.Grounded := decidable_of_iff _ grounded_iff.symm

namespace Grounded

/-- The directory around a directory is one. -/
theorem parent (h : s.Grounded) {d : Nat} (start : s.isDirectoryAt d) : s.isDirectoryAt (s.parent d) := by
  unfold Store.parent
  split
  · exact h.around ‹_›
  · exact start

end Grounded

/-! ## Walks to directories -/

/-- Steps the last of which, if there is one, is to `.`. -/
def EndsHere (xs : List Text) : Prop := xs = [] ∨ xs.getLast? = some ['.']

theorem EndsHere.tail {x : Text} {xs : List Text} (h : EndsHere (x :: xs)) : EndsHere xs := by
  cases xs with
  | nil => exact .inl rfl
  | cons y ys => simpa [EndsHere, List.getLast?_cons_cons] using h

/-- A name that is looked up is not the last of steps to `.`, and what is put before the others is walked before
them. -/
theorem EndsHere.follow {name : Text} {xs : List Text} (h : EndsHere (name :: xs)) (named : IsName name xs)
    (before : List Text) : xs ≠ [] ∧ EndsHere (before ++ xs) := by
  have ne : xs ≠ [] := by
    rintro rfl
    obtain h | h := h
    · cases h
    · exact named.here (.inl (Option.some.inj h))
  refine ⟨ne, .inr ?_⟩
  rw [List.getLast?_append, h.tail.resolve_left ne]
  rfl

/-- A walk from a directory, the last step of which is to `.`, ends in a directory if at anything, if this holds of
what follows a link. -/
theorem walkWith_endsHere (h : s.Grounded) {jump : Nat → List Text → Except Fault Place}
    (hj : ∀ {d xs i}, s.isDirectoryAt d → EndsHere xs → jump d xs = .ok (.node i) → s.isDirectoryAt i)
    {xs : List Text} {d i : Nat} (start : s.isDirectoryAt d) (last : EndsHere xs)
    (ends : s.walkWith .use jump d xs = .ok (.node i)) : s.isDirectoryAt i := by
  induction xs generalizing d with
  | nil =>
    rw [walkWith] at ends
    cases ends
    exact start
  | cons name rest ih =>
    rw [walkWith_cons_iff (by simp)] at ends
    cases ends with
    | stay _ ends => exact ih start last.tail ends
    | up _ ends => exact ih (h.parent start) last.tail ends
    | enter _ _ node ends => exact ih (isDirectoryAt_of_node node) last.tail ends
    | @follow _ target named _ _ ends =>
      obtain ⟨ne, last⟩ := last.follow named (Path.steps ['.'] target)
      rw [if_neg ne] at ends
      refine hj ?_ last ends
      split
      · exact h.root
      · exact start
    | arrive named _ _ _ end' _ => exact absurd end' (last.follow named []).1
    | free _ _ _ ends => cases ends

/-- **A path that asks for a directory leads to one**, if to anything. -/
theorem isDirectoryAt_of_find (h : s.Grounded) {path : Text} {i : Nat} (asks : Path.AsksDirectory path)
    (found : s.find path = .ok i) : s.isDirectoryAt i := by
  rw [find_eq_ok_iff, locate_eq_ok_iff] at found
  have walks : ∀ {d xs i}, s.isDirectoryAt d → EndsHere xs → s.walk .use linkLimit d xs = .ok (.node i) →
      s.isDirectoryAt i :=
    walk_induction (fun jump => ∀ {d xs i}, s.isDirectoryAt d → EndsHere xs → jump d xs = .ok (.node i) →
        s.isDirectoryAt i)
      (fun _ _ ends => by cases ends) (fun _ ih => walkWith_endsHere h ih) linkLimit
  refine walks ?_ (.inr asks) found.2
  split
  · exact h.root
  · exact h.here

/-- A path that asks for a directory leads to no regular file. -/
theorem isRegularFile_of_asksDirectory (h : s.Grounded) {path : Text} (asks : Path.AsksDirectory path) :
    s.isRegularFile path = false := by
  unfold isRegularFile
  split
  case h_1 i found =>
    have directory := isDirectoryAt_of_find h asks found
    unfold isDirectoryAt at directory
    cases node : s.node? i with
    | none => simp [node] at directory
    | some n => cases n <;> simp_all [Node.isDirectory, Node.isRegular]
  case h_2 => simp

/-! ## Names in the current directory -/

/-- A step to `.` goes nowhere. -/
theorem walk_here (p : Purpose) (links d : Nat) (xs : List Text) :
    s.walk p links d (['.'] :: xs) = s.walk p links d xs := by
  cases links with
  | zero => rw [walk, walkWith, if_pos (.inl rfl)]
  | succ links => rw [walk, walkWith, if_pos (.inl rfl)]

/-- A name that is too long leads nowhere, however short the path. -/
theorem walk_long {name : Text} (h : nameLimit < name.toUtf8.length) (p : Purpose) (links d : Nat) :
    s.walk p links d [name] = .error .nameTooLong := by
  have named : ∀ short : Text, short.toUtf8.length ≤ nameLimit → name ≠ short := by
    rintro short le rfl
    exact Nat.lt_irrefl _ (Nat.lt_of_lt_of_le h le)
  have step (jump) : s.walkWith p jump d [name] = .error .nameTooLong := by
    rw [walkWith, if_neg (not_or.mpr ⟨named _ (by decide), named _ (by decide)⟩), if_neg (named _ (by decide)),
      if_neg (by simp), if_pos h]
  cases links with
  | zero => exact step _
  | succ links => exact step _

/-- **A name leads to the same with and without the current directory before it.** -/
theorem find_inHere {name : Text} (ne : name ≠ []) (h : '/' ∉ name) :
    s.find (['.'] ++ '/' :: name) = s.find name := by
  have flat : Path.endsWithSlash name = false := by
    simpa [Path.endsWithSlash] using fun e => h (List.mem_of_getLast? e)
  have flat' : Path.endsWithSlash (['.'] ++ '/' :: name) = false := by
    obtain ⟨c, last⟩ := Option.ne_none_iff_exists'.mp (mt List.getLast?_eq_none_iff.mp ne)
    simpa [Path.endsWithSlash, List.getLast?_cons, last] using flat
  have relative : Path.isAbsolute name = false := by simpa using Path.isAbsolute_append ne h []
  have steps : Path.steps ['.'] name = [name] := by simp [Path.steps, flat, Path.names_of_notMem ne h]
  have steps' : Path.steps ['.'] (['.'] ++ '/' :: name) = [['.'], name] := by
    rw [Path.steps, flat', Path.names_append_cons (by simp) (by simp), Path.names_of_notMem ne h]
    rfl
  have located : s.locate .use (['.'] ++ '/' :: name) = s.locate .use name := by
    have relative' : Path.isAbsolute (['.'] ++ '/' :: name) = false := rfl
    rw [locate, locate, if_neg (by simp), if_neg ne, relative', relative]
    simp only [Purpose.ending, steps, steps', walk_here]
    by_cases long : nameLimit < name.toUtf8.length
    · -- The path with the directory may be too long where the name alone is not, but then no directory takes the name.
      simp only [walk_long long, ite_self]
    · have length : (Text.toUtf8 (['.'] ++ '/' :: name)).length = name.toUtf8.length + 2 := by
        rw [show ['.'] ++ '/' :: name = ['.', '/'] ++ name from rfl, Text.toUtf8_append, List.length_append,
          Nat.add_comm]
        rfl
      have room : nameLimit + 2 ≤ pathLimit := by decide
      have short : ¬pathLimit < name.toUtf8.length := by omega
      have short' : ¬pathLimit < (Text.toUtf8 (['.'] ++ '/' :: name)).length := by omega
      rw [if_neg short, if_neg short']
  rw [find, find, located]

end Store

end ProgramTrace.Files

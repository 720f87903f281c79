import ProgramTrace.Files.Store

/-!
# `ProgramTrace.Proofs.Files.Extension` — what writing files leaves as it was.

Two things happen to a store when files are written: the contents of a file change (`Store.modify`), and a
new file gets a free name (`Store.insert`).  Each has its laws here, one for every way in which a store is
looked at.  What both keep is said once, by `Store.Extends`: the nodes stay what they are, but for the
contents of files, every name leads where it led, and a name that is new leads to a file.
-/

namespace ProgramTrace.Files

/-! ## Nodes -/

namespace Node

/-- A node without what writing can change: the contents of a file, the entries of a directory. -/
def kind : Node → Node
  | .file _ x => .file [] x
  | .directory p _ => .directory p []
  | n => n

/-- A node with other contents, if it is a file. -/
def withContents (f : Bytes → Bytes) : Node → Node
  | .file c x => .file (f c) x
  | n => n

/-- A node with other entries, if it is a directory. -/
def withEntries (f : List (Text × Nat) → List (Text × Nat)) : Node → Node
  | .directory p es => .directory p (f es)
  | n => n

@[simp] theorem kind_withContents (f : Bytes → Bytes) (n : Node) : (n.withContents f).kind = n.kind := by
  cases n <;> rfl

@[simp] theorem kind_withEntries (f : List (Text × Nat) → List (Text × Nat)) (n : Node) :
    (n.withEntries f).kind = n.kind := by
  cases n <;> rfl

end Node

namespace Store

theorem node?_put (s : Store) (i j : Nat) (n : Node) :
    (s.put i n).node? j = if i = j then (s.node? j).map fun _ => n else s.node? j := by
  simp only [put, node?, List.getElem?_set]
  split
  · rename_i h
    subst h
    split
    · rw [List.getElem?_eq_getElem ‹_›]; rfl
    · rw [List.getElem?_eq_none (by omega)]; rfl
  · rfl

/-- Only the file whose contents are changed is another node then. -/
theorem node?_modify (s : Store) (i j : Nat) (f : Bytes → Bytes) :
    (s.modify i f).node? j = if i = j then (s.node? j).map (Node.withContents f) else s.node? j := by
  unfold modify
  split
  case h_1 c x hi =>
    rw [node?_put]
    split
    · rename_i h
      rw [← h, hi]
      rfl
    · rfl
  case h_2 hi =>
    split
    · rename_i h
      subst h
      cases hn : s.node? i with
      | none => rfl
      | some n =>
        cases n with
        | file c x => exact absurd hn (hi c x)
        | _ => rfl
    · rfl

/-- Only the directory whose entries are changed is another node then. -/
theorem node?_reenter (s : Store) (i j : Nat) (f : List (Text × Nat) → List (Text × Nat)) :
    (s.reenter i f).node? j = if i = j then (s.node? j).map (Node.withEntries f) else s.node? j := by
  unfold reenter
  split
  case h_1 p es hi =>
    rw [node?_put]
    split
    · rename_i h
      rw [← h, hi]
      rfl
    · rfl
  case h_2 hi =>
    split
    · rename_i h
      subst h
      cases hn : s.node? i with
      | none => rfl
      | some n =>
        cases n with
        | directory p es => exact absurd hn (hi p es)
        | _ => rfl
    · rfl

theorem node?_add (s : Store) (n : Node) (j : Nat) :
    (s.add n).2.node? j = if j = s.nodes.length then some n else s.node? j := by
  simp only [add, node?, List.getElem?_append]
  split
  · rw [if_neg (by omega)]
  · split
    · rename_i h
      rw [h, Nat.sub_self]
      rfl
    · rw [List.getElem?_eq_none (by simp; omega), List.getElem?_eq_none (by omega)]

/-- There is no node yet at the place that a new node gets. -/
theorem node?_length (s : Store) : s.node? s.nodes.length = none := by
  rw [node?, List.getElem?_eq_none (Nat.le_refl _)]

/-! ## Single stores -/

@[simp] theorem here_modify (s : Store) (i : Nat) (f : Bytes → Bytes) : (s.modify i f).here = s.here := by
  unfold modify
  split <;> rfl

@[simp] theorem here_reenter (s : Store) (i : Nat) (f : List (Text × Nat) → List (Text × Nat)) :
    (s.reenter i f).here = s.here := by
  unfold reenter
  split <;> rfl

/-- Only a directory has names. -/
theorem exists_directory_of_entry? {s : Store} {d i : Nat} {name : Text} (h : s.entry? d name = some i) :
    ∃ p es, s.node? d = some (.directory p es) := by
  unfold entry? entries at h
  split at h
  · exact ⟨_, _, ‹_›⟩
  · simp at h

/-- Changing the contents of files gives nothing another name. -/
@[simp] theorem entries_modify (s : Store) (i j : Nat) (f : Bytes → Bytes) :
    (s.modify i f).entries j = s.entries j := by
  unfold entries
  rw [node?_modify]
  by_cases same : i = j
  · rw [if_pos same]
    cases s.node? j with
    | none => rfl
    | some n => cases n <;> rfl
  · rw [if_neg same]

@[simp] theorem entry?_modify (s : Store) (i d : Nat) (name : Text) (f : Bytes → Bytes) :
    entry? (s.modify i f) d name = s.entry? d name := by
  unfold entry?
  rw [entries_modify]

/-- Only the file whose contents are changed has other contents then. -/
theorem contents?_modify (s : Store) (i j : Nat) (f : Bytes → Bytes) :
    (s.modify i f).contents? j = if i = j then (s.contents? j).map f else s.contents? j := by
  unfold contents?
  rw [node?_modify]
  by_cases same : i = j
  · rw [if_pos same, if_pos same]
    cases s.node? j with
    | none => rfl
    | some n => cases n <;> rfl
  · rw [if_neg same, if_neg same]

section Insert

variable (s : Store) (d : Nat) (name : Text) (n : Node)

theorem node?_insert (j : Nat) :
    (s.insert d name n).2.node? j =
      if j = s.nodes.length then
        some (if d = j then n.withEntries (· ++ [(name, s.nodes.length)]) else n)
      else if d = j then (s.node? j).map (Node.withEntries (· ++ [(name, s.nodes.length)]))
      else s.node? j := by
  show ((s.add n).2.reenter d (· ++ [(name, s.nodes.length)])).node? j = _
  rw [node?_reenter, node?_add]
  by_cases new : j = s.nodes.length
  · simp only [if_pos new]
    split <;> rfl
  · simp only [if_neg new]

/-- A file that is inserted stands at the place that it gets. -/
theorem node?_insert_file (c : Bytes) (x : Bool) :
    (s.insert d name (.file c x)).2.node? s.nodes.length = some (.file c x) := by
  rw [node?_insert, if_pos rfl]
  split <;> rfl

/-- Inserting a file adds its name to the directory, if it is one, and no other name. -/
theorem entries_insert_file (c : Bytes) (x : Bool) (e : Nat) :
    (s.insert d name (.file c x)).2.entries e =
      if d = e ∧ (s.node? e).any Node.isDirectory then s.entries e ++ [(name, s.nodes.length)]
      else s.entries e := by
  unfold entries
  by_cases new : e = s.nodes.length
  · -- The place of the file is no directory, neither before nor after.
    subst new
    rw [node?_insert_file, node?_length, if_neg (by simp)]
  · rw [node?_insert, if_neg new]
    by_cases same : d = e
    · rw [if_pos same]
      cases h : s.node? e with
      | none => simp
      | some m => cases m <;> simp [same, Node.withEntries, Node.isDirectory]
    · simp [same]

/-- A name that inserting a file has taken is the name of the file. -/
theorem eq_of_entry?_insert_file {c : Bytes} {x : Bool} {e i : Nat} {m : Text}
    (free : s.entry? e m = none) (h : entry? (s.insert d name (.file c x)).2 e m = some i) :
    d = e ∧ name = m ∧ i = s.nodes.length := by
  unfold entry? at free h
  rw [entries_insert_file] at h
  split at h
  · rename_i same
    rw [Option.map_eq_none_iff] at free
    rw [List.find?_append, free, Option.none_or, Option.map_eq_some_iff] at h
    obtain ⟨a, ha, rfl⟩ := h
    obtain rfl := List.mem_singleton.mp (List.mem_of_find?_eq_some ha)
    have named := List.find?_some ha
    exact ⟨same.1, eq_of_beq named, rfl⟩
  · exact absurd (free.symm.trans h) (by simp)

/-- No place but the new one has other contents after a file is inserted. -/
theorem contents?_insert_of_ne {j : Nat} (h : j ≠ s.nodes.length) :
    (s.insert d name n).2.contents? j = s.contents? j := by
  unfold contents?
  rw [node?_insert, if_neg h]
  by_cases same : d = j
  · rw [if_pos same]
    cases s.node? j with
    | none => rfl
    | some m => cases m <;> rfl
  · rw [if_neg same]

end Insert

/-! ## Extensions -/

/-- A store in which files of another have been written, and new files made. -/
structure Extends (s t : Store) : Prop where
  here : t.here = s.here
  /-- A node stays, and what writing cannot change of it stays as it is. -/
  kind {i : Nat} {n : Node} : s.node? i = some n → ∃ m, t.node? i = some m ∧ m.kind = n.kind
  /-- A node that is new is a file. -/
  added {i : Nat} {m : Node} : s.node? i = none → t.node? i = some m → ∃ c x, m = .file c x
  /-- A name leads where it led. -/
  entry {d i : Nat} {name : Text} : s.entry? d name = some i → t.entry? d name = some i
  /-- A name that is new leads to a file. -/
  named {d i : Nat} {name : Text} : s.entry? d name = none → t.entry? d name = some i →
    ∃ c x, t.node? i = some (.file c x)

namespace Extends

variable {s t u : Store}

theorem refl (s : Store) : s.Extends s where
  here := rfl
  kind h := ⟨_, h, rfl⟩
  added free h := absurd (free.symm.trans h) (by simp)
  entry h := h
  named free h := absurd (free.symm.trans h) (by simp)

/-- What is a file stays a file. -/
theorem file (e : s.Extends t) {i : Nat} {c : Bytes} {x : Bool} (h : s.node? i = some (.file c x)) :
    ∃ c', t.node? i = some (.file c' x) := by
  obtain ⟨m, hm, k⟩ := e.kind h
  cases m <;> simp only [Node.kind, Node.file.injEq, reduceCtorEq, true_and] at k
  exact ⟨_, k ▸ hm⟩

/-- What is a directory stays a directory, in the same one. -/
theorem directory (e : s.Extends t) {i p : Nat} {es : List (Text × Nat)}
    (h : s.node? i = some (.directory p es)) : ∃ es', t.node? i = some (.directory p es') := by
  obtain ⟨m, hm, k⟩ := e.kind h
  cases m <;> simp only [Node.kind, Node.directory.injEq, reduceCtorEq, and_true] at k
  exact ⟨_, k ▸ hm⟩

/-- What is a link stays the same link. -/
theorem link (e : s.Extends t) {i : Nat} {target : Text} (h : s.node? i = some (.link target)) :
    t.node? i = some (.link target) := by
  obtain ⟨m, hm, k⟩ := e.kind h
  cases m <;> simp only [Node.kind, Node.link.injEq, reduceCtorEq] at k
  exact k ▸ hm

/-- What is a device stays the same device. -/
theorem device (e : s.Extends t) {i : Nat} {d : Device} (h : s.node? i = some (.device d)) :
    t.node? i = some (.device d) := by
  obtain ⟨m, hm, k⟩ := e.kind h
  cases m <;> simp only [Node.kind, Node.device.injEq, reduceCtorEq] at k
  exact k ▸ hm

/-- What is no file was there before, and was the same but for what writing can change. -/
theorem kind_inv (e : s.Extends t) {i : Nat} {m : Node} (h : t.node? i = some m)
    (other : ∀ c x, m ≠ .file c x) : ∃ n, s.node? i = some n ∧ m.kind = n.kind := by
  cases hs : s.node? i with
  | none =>
    obtain ⟨c, x, k⟩ := e.added hs h
    exact absurd k (other c x)
  | some n =>
    obtain ⟨m', hm, k⟩ := e.kind hs
    obtain rfl := Option.some.inj (hm.symm.trans h)
    exact ⟨n, rfl, k⟩

/-- What is a program of the system was one before. -/
theorem program (e : s.Extends t) {i : Nat} {name : Text} (h : t.node? i = some (.program name)) :
    s.node? i = some (.program name) := by
  obtain ⟨n, hs, k⟩ := e.kind_inv h (by simp)
  cases n <;> simp only [Node.kind, Node.program.injEq, reduceCtorEq] at k
  rw [hs, k]

/-- What is a device was the same device before. -/
theorem device_inv (e : s.Extends t) {i : Nat} {d : Device} (h : t.node? i = some (.device d)) :
    s.node? i = some (.device d) := by
  obtain ⟨n, hs, k⟩ := e.kind_inv h (by simp)
  cases n <;> simp only [Node.kind, Node.device.injEq, reduceCtorEq] at k
  rw [hs, k]

/-- What is a link was the same link before. -/
theorem link_inv (e : s.Extends t) {i : Nat} {target : Text} (h : t.node? i = some (.link target)) :
    s.node? i = some (.link target) := by
  obtain ⟨n, hs, k⟩ := e.kind_inv h (by simp)
  cases n <;> simp only [Node.kind, Node.link.injEq, reduceCtorEq] at k
  rw [hs, k]

/-- No directory is made. -/
theorem directory_inv (e : s.Extends t) {i p : Nat} {es : List (Text × Nat)}
    (h : t.node? i = some (.directory p es)) : ∃ es', s.node? i = some (.directory p es') := by
  obtain ⟨n, hs, k⟩ := e.kind_inv h (by simp)
  cases n <;> simp only [Node.kind, Node.directory.injEq, reduceCtorEq, and_true] at k
  exact ⟨_, by rw [hs, k]⟩

/-- A name that leads to what is no file led there before. -/
theorem entry_inv (e : s.Extends t) {d i : Nat} {name : Text} {n : Node} (h : t.entry? d name = some i)
    (node : t.node? i = some n) (other : ∀ c x, n ≠ .file c x) : s.entry? d name = some i := by
  cases old : s.entry? d name with
  | none =>
    obtain ⟨c, x, file⟩ := e.named old h
    exact absurd (Option.some.inj (node.symm.trans file)) (other c x)
  | some j => rw [← h, e.entry old]

theorem trans (e : s.Extends t) (e' : t.Extends u) : s.Extends u where
  here := e'.here.trans e.here
  kind h := by
    obtain ⟨m, hm, k⟩ := e.kind h
    obtain ⟨m', hm', k'⟩ := e'.kind hm
    exact ⟨m', hm', k'.trans k⟩
  added {i m} free h := by
    cases ht : t.node? i with
    | none => exact e'.added ht h
    | some n =>
      obtain ⟨c, x, rfl⟩ := e.added free ht
      obtain ⟨c', hc⟩ := e'.file ht
      exact ⟨c', x, Option.some.inj (h.symm.trans hc)⟩
  entry h := e'.entry (e.entry h)
  named {d i name} free h := by
    cases ht : t.entry? d name with
    | none => exact e'.named ht h
    | some j =>
      obtain rfl : j = i := Option.some.inj ((e'.entry ht).symm.trans h)
      obtain ⟨c, x, hc⟩ := e.named free ht
      obtain ⟨c', hc'⟩ := e'.file hc
      exact ⟨c', x, hc'⟩

/-- The directory around a directory stays. -/
theorem parent (e : s.Extends t) (d : Nat) : t.parent d = s.parent d := by
  unfold Store.parent
  split
  · obtain ⟨es, hs⟩ := e.directory_inv ‹_›
    rw [hs]
  · rename_i no
    split
    · obtain ⟨es, ht⟩ := e.directory ‹_›
      exact absurd ht (no _ es)
    · rfl

end Extends

/-- Writing to a file extends a store. -/
theorem extends_modify (s : Store) (i : Nat) (f : Bytes → Bytes) : s.Extends (s.modify i f) where
  here := here_modify s i f
  kind {j n} h := by
    rw [node?_modify, h]
    split
    · exact ⟨_, rfl, Node.kind_withContents f n⟩
    · exact ⟨n, rfl, rfl⟩
  added free h := by
    rw [node?_modify, free] at h
    split at h <;> cases h
  entry h := by rwa [entry?_modify]
  named free h := by
    rw [entry?_modify] at h
    exact absurd (free.symm.trans h) (by simp)

/-- Making a file extends a store. -/
theorem extends_insert (s : Store) (d : Nat) (name : Text) (c : Bytes) (x : Bool) :
    s.Extends (s.insert d name (.file c x)).2 where
  here := here_reenter _ _ _
  kind {j n} h := by
    have old : j ≠ s.nodes.length := fun e => by simp [e, node?_length] at h
    rw [node?_insert, if_neg old, h]
    split
    · exact ⟨_, rfl, Node.kind_withEntries _ n⟩
    · exact ⟨n, rfl, rfl⟩
  added {j m} free h := by
    by_cases new : j = s.nodes.length
    · rw [new, node?_insert_file] at h
      exact ⟨c, x, (Option.some.inj h).symm⟩
    · rw [node?_insert, if_neg new, free] at h
      split at h <;> cases h
  entry {e i m} h := by
    -- The new name comes last, so that it hides no other.
    unfold entry? at h ⊢
    rw [entries_insert_file]
    split
    · rw [Option.map_eq_some_iff] at h
      obtain ⟨a, ha, rfl⟩ := h
      rw [List.find?_append, ha]
      rfl
    · exact h
  named {e i m} free h := by
    obtain ⟨-, -, rfl⟩ := eq_of_entry?_insert_file s d name free h
    exact ⟨c, x, node?_insert_file s d name c x⟩

/-- A file that is inserted in a directory under a free name is what the name leads to. -/
theorem entry?_insert_file {s : Store} {d : Nat} {name : Text} (c : Bytes) (x : Bool)
    (directory : (s.node? d).any Node.isDirectory) (free : s.entry? d name = none) :
    entry? (s.insert d name (.file c x)).2 d name = some s.nodes.length := by
  unfold entry? at free ⊢
  rw [Option.map_eq_none_iff] at free
  rw [entries_insert_file, if_pos ⟨rfl, directory⟩, List.find?_append, free]
  simp

end Store

end ProgramTrace.Files

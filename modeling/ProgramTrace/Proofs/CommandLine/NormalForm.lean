import ProgramTrace.Proofs.CommandLine.Grammar

/-!
# `ProgramTrace.Proofs.CommandLine.NormalForm` — items are read as their last values.

An option can be spelt in two ways, can be repeated, and can stand before or after the other one.  The two
spellings leave the reader in different states, since a value in a token of its own is held and not yet set;
but settling early changes nothing (`readFrom_settled`), so that after items only their last values are left
(`read_written`).  These do make a difference: items with other last values are told apart by a program alone
(`read_written_congr_iff`).  Hence items can be replaced by their normal form, which has each option at most
once, attached, CSV first, whatever follows them (`read_written_normal`).
-/

namespace ProgramTrace.CommandLine

open Export (Format)

/-! ## The normal form -/

/-- Attached items of the values that are there, CSV first. -/
def attachedItems (csv xml : Option Text) : List Item :=
  (csv.map (Item.attached .csv)).toList ++ (xml.map (Item.attached .xml)).toList

/-- The normal form of items: the last value of each option that occurs. -/
def normal (items : List Item) : List Item :=
  attachedItems (lastValue .csv items) (lastValue .xml items)

/-- The normal form is written with one token for each option that occurs. -/
theorem written_normal (items : List Item) :
    written (normal items) = ((lastValue .csv items).map (attachedToken .csv)).toList ++
      ((lastValue .xml items).map (attachedToken .xml)).toList := by
  unfold normal
  cases lastValue .csv items <;> cases lastValue .xml items <;> rfl

/-- The last values of attached items are those that they are made of. -/
theorem lastValue_attachedItems (csv xml : Option Text) :
    lastValue .csv (attachedItems csv xml) = csv ∧ lastValue .xml (attachedItems csv xml) = xml := by
  cases csv <;> cases xml <;> exact ⟨rfl, rfl⟩

/-- The normal form has the last values of the items. -/
theorem lastValue_normal (items : List Item) (f : Format) :
    lastValue f (normal items) = lastValue f items := by
  obtain ⟨csv, xml⟩ := lastValue_attachedItems (lastValue .csv items) (lastValue .xml items)
  cases f with
  | csv => exact csv
  | xml => exact xml

/-! ## Reading -/

/-- **Items are interchangeable exactly if they have the same last values**: only then are they read the same
whatever follows them, be it well-formed or not. -/
theorem read_written_congr_iff {a b : List Item} :
    (∀ post, read (written a ++ post) = read (written b ++ post)) ↔
      ∀ f, lastValue f a = lastValue f b := by
  constructor
  · intro same
    -- With a program and nothing else, each is read as its request, and that holds the last values.
    let call (items : List Item) : Invocation := ⟨items, true, ['p'], [], by simp⟩
    have tokens (items : List Item) : written items ++ [separator, Text.toUtf8 ['p']] = (call items).tokens := by
      simp [Invocation.tokens, call]
    have requests : (call a).request = (call b).request := by
      have read := same [separator, Text.toUtf8 ['p']]
      rw [tokens, tokens, read_tokens, read_tokens] at read
      exact Except.ok.inj read
    obtain ⟨csv, xml, -⟩ := Request.mk.inj requests
    intro f
    cases f with
    | csv => exact csv
    | xml => exact xml
  · intro last post
    have after : State.after a = State.after b := by
      rw [State.after, State.after, last .csv, last .xml]
    rw [read_written, read_written, after]

/-- **Items are read as their normal form, whatever follows them.**  Which spelling an option has, where it
stands among the items and what it overrides is not to be seen in the request, and not in the refusal either. -/
theorem read_written_normal (items : List Item) (post : List Bytes) :
    read (written items ++ post) =
      read (((lastValue .csv items).map (attachedToken .csv)).toList ++
        ((lastValue .xml items).map (attachedToken .xml)).toList ++ post) := by
  rw [← written_normal]
  have last : ∀ f, lastValue f items = lastValue f (normal items) :=
    fun f => (lastValue_normal items f).symm
  exact read_written_congr_iff.2 last post

/-- A program that is not UTF-8 is refused in either spelling. -/
example :
    read [optionToken .xml, Text.toUtf8 ['x'], attachedToken .csv ['a'], optionToken .csv, Text.toUtf8 ['c'],
        [0xFF]] =
      read [attachedToken .csv ['c'], attachedToken .xml ['x'], [0xFF]] := by
  rfl

end ProgramTrace.CommandLine

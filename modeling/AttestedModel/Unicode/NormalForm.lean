import AttestedModel.Unicode.CombiningClass
import AttestedModel.Unicode.Decomposition

/-!
# Normal form

Texts that differ only in how characters are composed, and in the order of marks
at different places, have one normal form.  All is decomposed, the marks are put
in the order of their classes, and what can be composed is composed.
-/

namespace AttestedModel.Unicode

/-- A character that starts anew. -/
def isStarter (c : Char) : Bool :=
  combiningClass c = 0

/-- Marks in the order of their classes; those of one class stay in theirs. -/
def sortMarks (run : List Char) : List Char :=
  run.mergeSort fun a b => combiningClass a ≤ combiningClass b

/-- A run of marks and the text after it, with one character more in front. -/
def prepend (c : Char) (state : List Char × List Char) : List Char × List Char :=
  if isStarter c then ([], c :: sortMarks state.1 ++ state.2) else (c :: state.1, state.2)

/-- A text with each run of marks in the order of their classes. -/
def orderMarks (cs : List Char) : List Char :=
  let (run, rest) := cs.foldr prepend ([], [])
  sortMarks run ++ rest

/-- A text on its way to be composed. -/
structure Composer where
  /-- What is finished, last character first. -/
  finished : List Char
  /-- The last character that started anew. -/
  starter : Option Char
  /-- The characters after it that were not composed with it, last one first. -/
  marks : List Char

namespace Composer

/-- Nothing stands between the starter and a character that would keep them apart: what is there
belongs to another place. -/
def reaches (k : Composer) (c : Char) : Bool :=
  match k.marks with
  | [] => true
  | mark :: _ => combiningClass mark < combiningClass c

/-- The text with one more character. -/
def add (k : Composer) (c : Char) : Composer :=
  match k.starter with
  | none =>
    if isStarter c then { k with starter := some c } else { k with finished := c :: k.finished }
  | some starter =>
    match if k.reaches c then compose? starter c else none with
    | some composite => { k with starter := some composite }
    | none =>
      if isStarter c then
        { finished := k.marks ++ starter :: k.finished, starter := some c, marks := [] }
      else { k with marks := c :: k.marks }

/-- All of the text. -/
def chars (k : Composer) : List Char :=
  (k.marks ++ k.starter.toList ++ k.finished).reverse

end Composer

/-- A text with all composed that can be. -/
def composeAll (cs : List Char) : List Char :=
  (cs.foldl Composer.add { finished := [], starter := none, marks := [] }).chars

/-- The normal form of a text. -/
def normalize (cs : List Char) : List Char :=
  composeAll (orderMarks (cs.flatMap decompose))

end AttestedModel.Unicode

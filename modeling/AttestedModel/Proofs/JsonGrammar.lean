import AttestedModel.Proofs.JsonNumerals

/-!
# The grammar of documents

`ValueText` says which bytes write which value: items and members stand between
brackets with commas between them, and white space may be put around each of their
parts.  A document is a value with white space around it (`DocumentText`).

By induction on how a value is written, the reader holds it after its bytes, whatever
array or object it stands in (`ValueText.holds`); inside an array or an object the same
is true of any number of further items or members.  So every text of a document is read
as that document (`parse_of_documentText`).
-/

namespace AttestedModel.Json

/-- White space. -/
def Space (bs : Bytes) : Prop :=
  ∀ b ∈ bs, isSpace b

/-- An item of an array as it is written. -/
structure Item where
  before : Bytes
  text : Bytes
  behind : Bytes
  value : Json

/-- The bytes of an item. -/
def Item.bytes (item : Item) : Bytes :=
  item.before ++ (item.text ++ item.behind)

/-- There is nothing but white space around an item. -/
structure Item.Spaced (item : Item) : Prop where
  before : Space item.before
  behind : Space item.behind

/-- The bytes of further items. -/
def furtherItems (more : List Item) : Bytes :=
  more.flatMap fun item => 0x2c :: item.bytes

/-- A member of an object as it is written; what comes behind the colon is an item. -/
structure Member extends Item where
  lead : Bytes
  nameText : Bytes
  gap : Bytes
  name : Option String

/-- The bytes of a member. -/
def Member.bytes (member : Member) : Bytes :=
  member.lead ++ (member.nameText ++ (member.gap ++ 0x3a :: member.toItem.bytes))

/-- The bytes of further members. -/
def furtherMembers (more : List Member) : Bytes :=
  more.flatMap fun member => 0x2c :: member.bytes

/-- A member is written with a literal for its name, and there is nothing but white space around
its parts. -/
structure Member.Named (member : Member) : Prop where
  lead : Space member.lead
  nameText : StringText member.nameText member.name
  gap : Space member.gap
  spaced : member.toItem.Spaced

/-- The name and the value of a member. -/
def Member.entry (member : Member) : Option String × Json :=
  (member.name, member.value)

/-- The bytes that write a value. -/
inductive ValueText : Bytes → Json → Prop
  | null : ValueText [0x6e, 0x75, 0x6c, 0x6c] .null
  | true : ValueText [0x74, 0x72, 0x75, 0x65] (.bool true)
  | false : ValueText [0x66, 0x61, 0x6c, 0x73, 0x65] (.bool false)
  | number {bs : Bytes} {n : Numeral} (text : NumeralText bs n) : ValueText bs (.number n)
  | string {bs : Bytes} {s : Option String} (text : StringText bs s) : ValueText bs (.string s)
  | emptyArray {space : Bytes} (blank : Space space) :
      ValueText (0x5b :: (space ++ [0x5d])) (.array [])
  | array {first : Item} {more : List Item} (spaced : ∀ item ∈ first :: more, item.Spaced)
      (values : ∀ item ∈ first :: more, ValueText item.text item.value) :
      ValueText (0x5b :: (first.bytes ++ (furtherItems more ++ [0x5d])))
        (.array ((first :: more).map Item.value))
  | emptyObject {space : Bytes} (blank : Space space) :
      ValueText (0x7b :: (space ++ [0x7d])) (.object [])
  | object {first : Member} {more : List Member} (named : ∀ member ∈ first :: more, member.Named)
      (values : ∀ member ∈ first :: more, ValueText member.text member.value) :
      ValueText (0x7b :: (first.bytes ++ (furtherMembers more ++ [0x7d])))
        (.object ((first :: more).map Member.entry))

/-- The bytes that write a document. -/
def DocumentText (bs : Bytes) (document : Json) : Prop :=
  ∃ item : Item, item.Spaced ∧ ValueText item.text item.value ∧ bs = item.bytes ∧
    item.value = document

theorem space_nil : Space [] :=
  fun _ hb => absurd hb List.not_mem_nil

/-- White space goes on with white space. -/
theorem Space.tail {b : UInt8} {bs : Bytes} (h : Space (b :: bs)) : Space bs :=
  fun c hc => h c (List.mem_cons_of_mem b hc)

/-- Between tokens white space changes nothing. -/
theorem Space.foldl {bs : Bytes} (h : Space bs) (next : Next) (stack : List Frame) :
    bs.foldl Reader.step (.reading .blank next stack) = .reading .blank next stack := by
  induction bs with
  | nil => rfl
  | cons b bs ih =>
      have hstep : Reader.step (.reading .blank next stack) b = .reading .blank next stack := by
        simp only [Reader.step, between, h b List.mem_cons_self, if_true]
      rw [List.foldl_cons, hstep, ih h.tail]

/-- The reader has read a value inside `stack`.  The end of a number is still to be seen. -/
def Holds (value : Json) (stack : List Frame) (r : Reader) : Prop :=
  r = accept value stack ∨
    ∃ part m n next, r = .reading (.number part m) next stack ∧ finishNumber? part m = some n ∧
      value = .number n

/-- A byte that ends every number: white space, a comma or a closing bracket. -/
def isEnd (b : UInt8) : Bool :=
  isSpace b || b = 0x2c || b = 0x5d || b = 0x7d

/-- No part of a number goes on with a byte that may stand behind it. -/
theorem continueNumber_of_isEnd {b : UInt8} (hb : isEnd b) (part : NumeralPart) (m : Numeral) :
    continueNumber part m b = none := by
  simp only [isEnd, isSpace, Bool.or_eq_true, decide_eq_true_eq, or_assoc] at hb
  obtain ⟨negative, whole, fraction, exponent⟩ := m
  rcases hb with rfl | rfl | rfl | rfl | rfl | rfl | rfl <;> cases part <;> first
    | rfl
    | (cases exponent <;> rfl)

/-- A byte that ends every number comes after the value that is held. -/
theorem Holds.step {value : Json} {stack stack' : List Frame} {next : Next} {r : Reader} {b : UInt8}
    (h : Holds value stack r) (hopen : accept value stack = .reading .blank next stack')
    (hb : isEnd b) : r.step b = between b next stack' := by
  rcases h with rfl | ⟨part, m, n, next', rfl, hfinish, rfl⟩
  · rw [hopen]
    rfl
  · simp only [Reader.step, continueNumber_of_isEnd hb, hfinish, hopen]

/-- White space comes after the value that is held. -/
theorem Holds.foldl_space {value : Json} {stack stack' : List Frame} {next : Next} {r : Reader}
    (h : Holds value stack r) (hopen : accept value stack = .reading .blank next stack')
    {space : Bytes} (hspace : Space space) :
    Holds value stack (space.foldl Reader.step r) := by
  cases space with
  | nil => exact h
  | cons b bs =>
      -- the first blank ends a number, the others change nothing
      have hb := hspace b List.mem_cons_self
      have hfirst : r.step b = .reading .blank next stack' := by
        rw [h.step hopen (by simp [isEnd, hb])]
        simp only [between, hb, if_true]
      left
      rw [List.foldl_cons, hfirst, hspace.tail.foldl, hopen]

/-- The end of the input comes after the value that is held. -/
theorem Holds.finish? {value : Json} {r : Reader} (h : Holds value [] r) :
    r.finish? = some value := by
  rcases h with rfl | ⟨part, m, n, next, rfl, hfinish, rfl⟩
  · rfl
  · simp only [Reader.finish?, hfinish, Option.map_some]

/-- Bytes lead to a value, wherever one may come. -/
def Reads (bs : Bytes) (value : Json) : Prop :=
  ∀ next stack, next = .value ∨ next = .firstItem →
    Holds value stack (bs.foldl Reader.step (.reading .blank next stack))

/-- An item leads to its value, with the white space around it. -/
theorem Item.Spaced.reads {item : Item} (h : item.Spaced) (hread : Reads item.text item.value)
    {next next' : Next} {stack' : List Frame} (hnext : next = .value ∨ next = .firstItem)
    (stack : List Frame) (hopen : accept item.value stack = .reading .blank next' stack') :
    Holds item.value stack (item.bytes.foldl Reader.step (.reading .blank next stack)) := by
  rw [Item.bytes, List.foldl_append, h.before.foldl, List.foldl_append]
  exact (hread next stack hnext).foldl_space hopen h.behind

/-- The further items of an array and the bracket at its end lead to the array. -/
theorem foldl_items {more : List Item} (hspaced : ∀ item ∈ more, item.Spaced)
    (hread : ∀ item ∈ more, Reads item.text item.value) {value : Json} {before : List Json}
    {stack : List Frame} {r : Reader} (hr : Holds value (.array before :: stack) r) :
    (furtherItems more ++ [0x5d]).foldl Reader.step r =
      accept (.array (before.reverse ++ value :: more.map Item.value)) stack := by
  induction more generalizing value before r with
  | nil =>
      have hclose : r.step 0x5d = accept (.array (value :: before).reverse) stack :=
        hr.step rfl (by decide)
      exact hclose.trans (by rw [List.reverse_cons]; rfl)
  | cons item more ih =>
      have hcomma : r.step 0x2c = .reading .blank .value (.array (value :: before) :: stack) :=
        hr.step rfl (by decide)
      have hitem := (hspaced item List.mem_cons_self).reads (hread item List.mem_cons_self)
        (.inl rfl) (.array (value :: before) :: stack) rfl
      have hrest := ih (fun i hi => hspaced i (List.mem_cons_of_mem item hi))
        (fun i hi => hread i (List.mem_cons_of_mem item hi)) hitem
      have hsplit : furtherItems (item :: more) ++ [0x5d] =
          0x2c :: (item.bytes ++ (furtherItems more ++ [0x5d])) := by simp [furtherItems]
      rw [hsplit, List.foldl_cons, hcomma, List.foldl_append, hrest, List.reverse_cons,
        List.append_assoc, List.singleton_append, List.map_cons]

/-- A member leads to its value behind its name, where a name may come. -/
theorem Member.Named.reads {member : Member} (h : member.Named)
    (hread : Reads member.text member.value) {next : Next}
    (hnext : next = .name ∨ next = .firstName) (before : List (Option String × Json))
    (stack : List Frame) :
    Holds member.value (.member before member.name :: stack)
      (member.bytes.foldl Reader.step (.reading .blank next (.object before :: stack))) := by
  have hname : member.nameText.foldl Reader.step (.reading .blank next (.object before :: stack)) =
      .reading .blank .colon (.member before member.name :: stack) := by
    rcases hnext with rfl | rfl <;> exact h.nameText.foldl rfl
  have hcolon : Reader.step (.reading .blank .colon (.member before member.name :: stack)) 0x3a =
      .reading .blank .value (.member before member.name :: stack) := rfl
  rw [Member.bytes, List.foldl_append, h.lead.foldl, List.foldl_append, hname, List.foldl_append,
    h.gap.foldl, List.foldl_cons, hcolon]
  exact h.spaced.reads hread (.inl rfl) _ rfl

/-- The further members of an object and the brace at its end lead to the object. -/
theorem foldl_members {more : List Member} (hnamed : ∀ member ∈ more, member.Named)
    (hread : ∀ member ∈ more, Reads member.text member.value) {value : Json}
    {name : Option String} {before : List (Option String × Json)} {stack : List Frame}
    {r : Reader} (hr : Holds value (.member before name :: stack) r) :
    (furtherMembers more ++ [0x7d]).foldl Reader.step r =
      accept (.object (before.reverse ++ (name, value) :: more.map Member.entry)) stack := by
  induction more generalizing value name before r with
  | nil =>
      have hclose : r.step 0x7d = accept (.object ((name, value) :: before).reverse) stack :=
        hr.step rfl (by decide)
      exact hclose.trans (by rw [List.reverse_cons]; rfl)
  | cons member more ih =>
      have hcomma : r.step 0x2c =
          .reading .blank .name (.object ((name, value) :: before) :: stack) :=
        hr.step rfl (by decide)
      have hmember := (hnamed member List.mem_cons_self).reads (hread member List.mem_cons_self)
        (.inl rfl) ((name, value) :: before) stack
      have hrest := ih (fun m hm => hnamed m (List.mem_cons_of_mem member hm))
        (fun m hm => hread m (List.mem_cons_of_mem member hm)) hmember
      have hsplit : furtherMembers (member :: more) ++ [0x7d] =
          0x2c :: (member.bytes ++ (furtherMembers more ++ [0x7d])) := by simp [furtherMembers]
      rw [hsplit, List.foldl_cons, hcomma, List.foldl_append, hrest, List.reverse_cons,
        List.append_assoc, List.singleton_append, List.map_cons]
      rfl

/-- The first byte of a value starts it, wherever a value may come. -/
theorem foldl_start {next : Next} {stack : List Frame} (hnext : next = .value ∨ next = .firstItem)
    {b : UInt8} (hb : b ∈ [0x6e, 0x74, 0x66, 0x22, 0x5b, 0x7b]) (bs : Bytes) :
    (b :: bs).foldl Reader.step (.reading .blank next stack) =
      bs.foldl Reader.step (startValue b next stack) := by
  have hother : isSpace b = false ∧ b ≠ 0x5d := by
    simp only [List.mem_cons, List.not_mem_nil, or_false] at hb
    rcases hb with rfl | rfl | rfl | rfl | rfl | rfl <;> decide
  exact congrArg (bs.foldl Reader.step ·) (between_eq_startValue hnext hother.1 hother.2)

/-- **A value is held after its text**, wherever a value may come. -/
theorem ValueText.reads {bs : Bytes} {value : Json} (h : ValueText bs value) : Reads bs value := by
  induction h with
  | null => exact fun next stack hnext => .inl (foldl_start hnext (by decide) _)
  | true => exact fun next stack hnext => .inl (foldl_start hnext (by decide) _)
  | false => exact fun next stack hnext => .inl (foldl_start hnext (by decide) _)
  | number text =>
      intro next stack hnext
      obtain ⟨part, m, hread, hfinish⟩ := @NumeralText.foldl next stack _ _ text hnext
      exact .inr ⟨part, m, _, next, hread, hfinish, rfl⟩
  | string text =>
      intro next stack hnext
      left
      rcases hnext with rfl | rfl <;> exact text.foldl rfl
  | @emptyArray space blank =>
      intro next stack hnext
      left
      have hopen : startValue 0x5b next stack = .reading .blank .firstItem (.array [] :: stack) := rfl
      rw [foldl_start hnext (by decide), hopen, List.foldl_append, blank.foldl]
      rfl
  | @array first more spaced values ih =>
      intro next stack hnext
      left
      have hopen : startValue 0x5b next stack = .reading .blank .firstItem (.array [] :: stack) := rfl
      have hfirst := (spaced first List.mem_cons_self).reads (ih first List.mem_cons_self) (.inr rfl)
        (.array [] :: stack) rfl
      rw [foldl_start hnext (by decide), hopen, List.foldl_append]
      exact foldl_items (fun i hi => spaced i (List.mem_cons_of_mem first hi))
        (fun i hi => ih i (List.mem_cons_of_mem first hi)) hfirst
  | @emptyObject space blank =>
      intro next stack hnext
      left
      have hopen : startValue 0x7b next stack = .reading .blank .firstName (.object [] :: stack) := rfl
      rw [foldl_start hnext (by decide), hopen, List.foldl_append, blank.foldl]
      rfl
  | @object first more named values ih =>
      intro next stack hnext
      left
      have hopen : startValue 0x7b next stack = .reading .blank .firstName (.object [] :: stack) := rfl
      have hfirst := (named first List.mem_cons_self).reads (ih first List.mem_cons_self) (.inr rfl)
        [] stack
      rw [foldl_start hnext (by decide), hopen, List.foldl_append]
      exact foldl_members (fun m hm => named m (List.mem_cons_of_mem first hm))
        (fun m hm => ih m (List.mem_cons_of_mem first hm)) hfirst

/-- **Every text of a document is read as that document.** -/
theorem parse_of_documentText {bs : Bytes} {document : Json} (h : DocumentText bs document) :
    parse bs = some document := by
  obtain ⟨item, hspaced, htext, rfl, rfl⟩ := h
  exact (hspaced.reads htext.reads (.inl rfl) [] rfl).finish?

end AttestedModel.Json

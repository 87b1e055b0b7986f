import AttestedModel.Proofs.JsonTokens

/-!
# Only texts of the grammar are read

Whatever the reader has taken in without refusing it, the bytes so far begin a text of the
grammar, and its state says how far: `Reached` has one constructor for each kind of
state, with the texts of the unfinished arrays and objects around it (`Opened`) and of the
token at hand.  A byte leads from one such state to another (`Reached.step`), so that a document is
read from its texts and from nothing else (`parse_eq_some_iff`).
-/

namespace AttestedModel.Json

/-- An item is written with a text of its value, with white space around it. -/
structure Item.Written (item : Item) : Prop where
  spaced : item.Spaced
  text : ValueText item.text item.value

/-- A member is written with a literal for its name and a text of its value. -/
structure Member.Written (member : Member) : Prop where
  named : member.Named
  text : ValueText member.text member.value

/-- The bytes of items with a comma behind each. -/
def itemsBefore (items : List Item) : Bytes :=
  items.flatMap fun item => item.bytes ++ [0x2c]

/-- The bytes of members with a comma behind each. -/
def membersBefore (members : List Member) : Bytes :=
  members.flatMap fun member => member.bytes ++ [0x2c]

/-- The bytes of a name, with white space around it. -/
inductive NameText : Bytes → Option String → Prop
  | intro {lead text gap : Bytes} {name : Option String} (lead_blank : Space lead)
      (literal : StringText text name) (gap_blank : Space gap) :
      NameText (lead ++ (text ++ gap)) name

/-- The bytes up to where a value is awaited, within unfinished arrays and objects. -/
inductive Opened : Bytes → List Frame → Prop
  | document {space : Bytes} (blank : Space space) : Opened space []
  | array {bs space : Bytes} {stack : List Frame} {items : List Item} (outer : Opened bs stack)
      (written : ∀ item ∈ items, item.Written) (blank : Space space) :
      Opened (bs ++ 0x5b :: (itemsBefore items ++ space))
        (.array (items.map Item.value).reverse :: stack)
  | member {bs head space : Bytes} {stack : List Frame} {members : List Member}
      {name : Option String} (outer : Opened bs stack)
      (written : ∀ member ∈ members, member.Written) (named : NameText head name)
      (blank : Space space) :
      Opened (bs ++ 0x7b :: (membersBefore members ++ (head ++ 0x3a :: space)))
        (.member (members.map Member.entry).reverse name :: stack)

/-- Parts with a comma behind each and one more are parts with a comma in front of each but the
first. -/
theorem exists_first {α : Type} (bytes : α → Bytes) (parts : List α) (last : α) :
    ∃ first more, parts ++ [last] = first :: more ∧
      (parts.flatMap fun part => bytes part ++ [0x2c]) ++ bytes last =
        bytes first ++ more.flatMap fun part => 0x2c :: bytes part := by
  induction parts with
  | nil => exact ⟨last, [], rfl, by simp⟩
  | cons part parts ih =>
      obtain ⟨first, more, hparts, hbytes⟩ := ih
      refine ⟨part, first :: more, by rw [List.cons_append, hparts], ?_⟩
      rw [List.flatMap_cons, List.append_assoc, hbytes]
      simp

/-- Items up to the last one, in brackets, are an array. -/
theorem valueText_array {items : List Item} (h : ∀ item ∈ items, item.Written) {last : Item}
    (hlast : last.Written) :
    ValueText (0x5b :: (itemsBefore items ++ (last.bytes ++ [0x5d])))
      (.array ((items ++ [last]).map Item.value)) := by
  obtain ⟨first, more, hitems, hbytes⟩ := exists_first Item.bytes items last
  have hall : ∀ item ∈ first :: more, item.Written := hitems ▸ forall_mem_concat h hlast
  rw [hitems, ← List.append_assoc, itemsBefore, hbytes, List.append_assoc]
  exact .array (fun item hitem => (hall item hitem).spaced) fun item hitem => (hall item hitem).text

/-- Members up to the last one, in braces, are an object. -/
theorem valueText_object {members : List Member} (h : ∀ member ∈ members, member.Written)
    {last : Member} (hlast : last.Written) :
    ValueText (0x7b :: (membersBefore members ++ (last.bytes ++ [0x7d])))
      (.object ((members ++ [last]).map Member.entry)) := by
  obtain ⟨first, more, hmembers, hbytes⟩ := exists_first Member.bytes members last
  have hall : ∀ member ∈ first :: more, member.Written := hmembers ▸ forall_mem_concat h hlast
  rw [hmembers, ← List.append_assoc, membersBefore, hbytes, List.append_assoc]
  exact .object (fun member hmember => (hall member hmember).named) fun member hmember =>
    (hall member hmember).text

/-- White space may follow where a value is awaited. -/
theorem Opened.space {bs : Bytes} {stack : List Frame} {b : UInt8} (h : Opened bs stack)
    (hb : isSpace b) : Opened (bs ++ [b]) stack := by
  cases h with
  | document blank => exact .document (forall_mem_concat blank hb)
  | array outer written blank => simpa using Opened.array outer written (forall_mem_concat blank hb)
  | member outer written named blank =>
      simpa using Opened.member outer written named (forall_mem_concat blank hb)

/-- A value is awaited: any, or the first one of an array. -/
def Awaits (next : Next) (stack : List Frame) : Prop :=
  next = .value ∨ next = .firstItem ∧ ∃ outer, stack = .array [] :: outer

/-- A name is awaited: any, or the first one of an object. -/
def AwaitsName (next : Next) (members : List Member) : Prop :=
  next = .name ∨ next = .firstName ∧ members = []

/-- The bytes that were taken in, and the state that they lead to. -/
inductive Reached : Bytes → Reader → Prop
  | refused (bs : Bytes) : Reached bs .refused
  | awaiting {bs : Bytes} {next : Next} {stack : List Frame} (outer : Opened bs stack)
      (awaits : Awaits next stack) : Reached bs (.reading .blank next stack)
  | naming {bs space : Bytes} {next : Next} {stack : List Frame} {members : List Member}
      (outer : Opened bs stack) (written : ∀ member ∈ members, member.Written)
      (awaits : AwaitsName next members) (blank : Space space) :
      Reached (bs ++ 0x7b :: (membersBefore members ++ space))
        (.reading .blank next (.object (members.map Member.entry).reverse :: stack))
  | named {bs head : Bytes} {stack : List Frame} {members : List Member} {name : Option String}
      (outer : Opened bs stack) (written : ∀ member ∈ members, member.Written)
      (named : NameText head name) :
      Reached (bs ++ 0x7b :: (membersBefore members ++ head))
        (.reading .blank .colon (.member (members.map Member.entry).reverse name :: stack))
  | held {bs text space : Bytes} {value : Json} {stack : List Frame} {r : Reader}
      (outer : Opened bs stack) (written : ValueText text value) (blank : Space space)
      (accepted : r = accept value stack) : Reached (bs ++ (text ++ space)) r
  | word {bs front rest : Bytes} {value : Json} {next : Next} {stack : List Frame}
      (outer : Opened bs stack) (written : ValueText (front ++ rest) value) (ne_nil : rest ≠ []) :
      Reached (bs ++ front) (.reading (.word rest value) next stack)
  | number {bs front : Bytes} {part : NumeralPart} {n : Numeral} {next : Next}
      {stack : List Frame} (outer : Opened bs stack) (begun : NumberFront front part n) :
      Reached (bs ++ front) (.reading (.number part n) next stack)
  | string {bs front : Bytes} {scan : Scan} {next : Next} {stack : List Frame}
      (outer : Opened bs stack) (awaits : Awaits next stack) (begun : LiteralFront front scan) :
      Reached (bs ++ front) (.reading scan next stack)
  | name {bs space front : Bytes} {scan : Scan} {next : Next} {stack : List Frame}
      {members : List Member} (outer : Opened bs stack)
      (written : ∀ member ∈ members, member.Written) (awaits : AwaitsName next members)
      (blank : Space space) (begun : LiteralFront front scan) :
      Reached (bs ++ 0x7b :: (membersBefore members ++ (space ++ front)))
        (.reading scan next (.object (members.map Member.entry).reverse :: stack))

/-- A value is awaited in its own right, or as the first item of an array. -/
theorem Awaits.eq_or {next : Next} {stack : List Frame} (h : Awaits next stack) :
    next = .value ∨ next = .firstItem :=
  h.imp_right And.left

/-- A byte where a value is awaited begins one, or is refused. -/
theorem Reached.start {bs : Bytes} {next : Next} {stack : List Frame} (outer : Opened bs stack)
    (awaits : Awaits next stack) (b : UInt8) : Reached (bs ++ [b]) (startValue b next stack) := by
  have hsign : NumberFront [0x2d] .sign _ := .sign
  have hzero : NumberFront [0x30] .zero _ := .whole (.zero false)
  unfold startValue
  dsimp only
  split
  · rename_i hb
    rw [hb]
    exact .naming outer (fun _ h => absurd h List.not_mem_nil) (.inr ⟨rfl, rfl⟩) space_nil
  split
  · rename_i hb
    rw [hb]
    exact .awaiting (.array outer (fun _ h => absurd h List.not_mem_nil) space_nil)
      (.inr ⟨rfl, stack, rfl⟩)
  split
  · rename_i hb
    rw [hb]
    exact .string outer awaits (.pieces .nil)
  split
  · rename_i hb
    rw [hb]
    exact @Reached.word bs [0x6e] _ _ next stack outer .null (by simp)
  split
  · rename_i hb
    rw [hb]
    exact @Reached.word bs [0x74] _ _ next stack outer .true (by simp)
  split
  · rename_i hb
    rw [hb]
    exact @Reached.word bs [0x66] _ _ next stack outer .false (by simp)
  split
  · rename_i hb
    rw [hb]
    exact .number outer hsign
  split
  · rename_i hb
    rw [hb]
    exact .number outer hzero
  split
  · rename_i hb
    obtain ⟨d, hd, hdigit, hvalue⟩ := @exists_digitByte b (by
      simp only [UInt8.le_iff_toNat_le, UInt8.reduceToNat] at hb
      simp only [Bool.and_eq_true, decide_eq_true_eq, UInt8.le_iff_toNat_le, UInt8.reduceToNat]
      omega)
    have hne : d ≠ 0 := by
      simp only [UInt8.le_iff_toNat_le, UInt8.reduceToNat] at hb
      omega
    rw [hvalue, hdigit]
    exact .number outer (.whole (.whole false hne (List.forall_mem_singleton.mpr hd)))
  · exact .refused _

/-- An item ends with a comma or with the bracket behind the last one. -/
theorem Reached.behind_item {bs : Bytes} {stack : List Frame} {items : List Item}
    (outer : Opened bs stack) (written : ∀ item ∈ items, item.Written) {last : Item}
    (hlast : last.Written) {b : UInt8} (hb : ¬isSpace b) :
    Reached (bs ++ 0x5b :: (itemsBefore items ++ (last.bytes ++ [b])))
      (between b .comma (.array (last.value :: (items.map Item.value).reverse) :: stack)) := by
  have hvalues : last.value :: (items.map Item.value).reverse =
      ((items ++ [last]).map Item.value).reverse := by simp
  rw [hvalues]
  simp only [between, hb, Bool.false_eq_true, if_false]
  split
  · rename_i hcomma
    have hmore := Opened.array outer (forall_mem_concat written hlast) space_nil
    simpa [itemsBefore, hcomma] using Reached.awaiting hmore (.inl rfl)
  split
  · rename_i hclose
    rw [List.reverse_reverse]
    simpa [hclose] using Reached.held outer (valueText_array written hlast) space_nil rfl
  · exact .refused _

/-- A member ends with a comma or with the brace behind the last one. -/
theorem Reached.behind_member {bs : Bytes} {stack : List Frame} {members : List Member}
    (outer : Opened bs stack) (written : ∀ member ∈ members, member.Written) {last : Member}
    (hlast : last.Written) {b : UInt8} (hb : ¬isSpace b) :
    Reached (bs ++ 0x7b :: (membersBefore members ++ (last.bytes ++ [b])))
      (between b .comma (.object (last.entry :: (members.map Member.entry).reverse) :: stack)) := by
  have hentries : last.entry :: (members.map Member.entry).reverse =
      ((members ++ [last]).map Member.entry).reverse := by simp
  rw [hentries]
  simp only [between, hb, Bool.false_eq_true, if_false]
  split
  · rename_i hcomma
    simpa [membersBefore, hcomma] using
      Reached.naming outer (forall_mem_concat written hlast) (.inl rfl) space_nil
  split
  · rename_i hclose
    rw [List.reverse_reverse]
    simpa [hclose] using Reached.held outer (valueText_object written hlast) space_nil rfl
  · exact .refused _

/-- A byte behind a value and white space goes on with what is around it, or is refused. -/
theorem Reached.behind {bs text space : Bytes} {value : Json} {next : Next}
    {stack stack' : List Frame} (outer : Opened bs stack) (written : ValueText text value)
    (blank : Space space) (hopen : accept value stack = .reading .blank next stack') (b : UInt8) :
    Reached (bs ++ (text ++ space) ++ [b]) (between b next stack') := by
  by_cases hb : isSpace b
  · have hstay : between b next stack' = .reading .blank next stack' := by
      simp only [between, hb, if_true]
    rw [hstay, List.append_assoc, List.append_assoc]
    exact .held outer written (forall_mem_concat blank hb) hopen.symm
  · cases outer with
    | document before =>
        obtain ⟨-, rfl, rfl⟩ := Reader.reading.inj hopen
        simp only [between, hb, Bool.false_eq_true, if_false]
        exact .refused _
    | @array bs before stack items outer hitems before_blank =>
        obtain ⟨-, rfl, rfl⟩ := Reader.reading.inj hopen
        let last : Item := { before, text, behind := space, value }
        have hlast : last.Written := ⟨⟨before_blank, blank⟩, written⟩
        simpa [Item.bytes, last] using Reached.behind_item outer hitems hlast hb
    | @member bs head before stack members name outer hmembers named before_blank =>
        obtain ⟨-, rfl, rfl⟩ := Reader.reading.inj hopen
        obtain ⟨lead_blank, literal, gap_blank⟩ := named
        rename_i lead nameText gap
        let last : Member := { before, text, behind := space, value, lead, nameText, gap, name }
        have hlast : last.Written := ⟨⟨lead_blank, literal, gap_blank, before_blank, blank⟩, written⟩
        simpa [Member.bytes, Item.bytes, Member.entry, last] using
          Reached.behind_member outer hmembers hlast hb

/-- A value that was awaited is accepted. -/
theorem Opened.accept_eq {bs : Bytes} {stack : List Frame} (h : Opened bs stack) (value : Json) :
    ∃ next stack', accept value stack = .reading .blank next stack' := by
  cases h with
  | document => exact ⟨_, _, rfl⟩
  | array => exact ⟨_, _, rfl⟩
  | member => exact ⟨_, _, rfl⟩

/-- An array that was just begun holds white space. -/
theorem Opened.of_empty_array {bs : Bytes} {stack : List Frame} (h : Opened bs (.array [] :: stack)) :
    ∃ front space, bs = front ++ 0x5b :: space ∧ Opened front stack ∧ Space space := by
  generalize hall : Frame.array [] :: stack = all at h
  cases h with
  | document => exact absurd hall nofun
  | @array front space outer items outer_opened written blank =>
      obtain ⟨hitems, rfl⟩ := List.cons.inj hall
      have hnone : items = [] := by simpa using (Frame.array.inj hitems).symm
      subst hnone
      exact ⟨front, space, rfl, outer_opened, blank⟩
  | member => exact absurd hall nofun

/-- Where a value is awaited, a byte is white space, begins a value or ends an empty array. -/
theorem Reached.awaiting_step {bs : Bytes} {next : Next} {stack : List Frame}
    (outer : Opened bs stack) (awaits : Awaits next stack) (b : UInt8) :
    Reached (bs ++ [b]) (between b next stack) := by
  by_cases hb : isSpace b
  · simp only [between, hb, if_true]
    exact .awaiting (outer.space hb) awaits
  · by_cases hclose : b = 0x5d
    · subst hclose
      rcases awaits with rfl | ⟨rfl, inner, rfl⟩
      · exact .refused _
      · obtain ⟨front, space, rfl, hinner, blank⟩ := outer.of_empty_array
        simpa [between, hb] using Reached.held hinner (.emptyArray blank) space_nil rfl
    · rw [between_eq_startValue awaits.eq_or (Bool.eq_false_iff.mpr hb) hclose]
      exact .start outer awaits b

/-- Where a name is awaited, a byte is white space, begins a name or ends an empty object. -/
theorem Reached.naming_step {bs space : Bytes} {next : Next} {stack : List Frame}
    {members : List Member} (outer : Opened bs stack) (written : ∀ member ∈ members, member.Written)
    (awaits : AwaitsName next members) (blank : Space space) (b : UInt8) :
    Reached (bs ++ 0x7b :: (membersBefore members ++ (space ++ [b])))
      (between b next (.object (members.map Member.entry).reverse :: stack)) := by
  have hquote : b = 0x22 → Reached (bs ++ 0x7b :: (membersBefore members ++ (space ++ [b])))
      (.reading (.string []) next (.object (members.map Member.entry).reverse :: stack)) := by
    intro hb
    simpa [hb] using Reached.name outer written awaits blank (.pieces .nil)
  by_cases hb : isSpace b
  · simp only [between, hb, if_true]
    exact .naming outer written awaits (forall_mem_concat blank hb)
  · rcases awaits with rfl | ⟨rfl, rfl⟩
    · simp only [between, hb, Bool.false_eq_true, if_false]
      split
      · exact hquote ‹_›
      · exact .refused _
    · simp only [between, hb, Bool.false_eq_true, if_false]
      split
      · exact hquote ‹_›
      split
      · rename_i hclose
        simpa [hclose, membersBefore] using
          Reached.held outer (.emptyObject blank) space_nil rfl
      · exact .refused _

/-- Inside a literal that is a value, a byte goes on with it, ends it or is refused. -/
theorem Reached.string_step {bs front : Bytes} {scan : Scan} {next : Next} {stack : List Frame}
    (outer : Opened bs stack) (awaits : Awaits next stack) (begun : LiteralFront front scan)
    (b : UInt8) : Reached (bs ++ (front ++ [b])) (Reader.step (.reading scan next stack) b) := by
  cases begun.step next stack b with
  | @ended text literal accepted =>
      have haccept : acceptString text next stack = accept (.string text) stack := by
        rcases awaits.eq_or with rfl | rfl <;> rfl
      rw [accepted, haccept]
      simpa using Reached.held outer (.string literal) space_nil rfl
  | continued front reading =>
      rw [reading]
      exact .string outer awaits front
  | refused refused =>
      rw [refused]
      exact .refused _

/-- Inside a literal that is a name, a byte goes on with it, ends it or is refused. -/
theorem Reached.name_step {bs space front : Bytes} {scan : Scan} {next : Next}
    {stack : List Frame} {members : List Member} (outer : Opened bs stack)
    (written : ∀ member ∈ members, member.Written) (awaits : AwaitsName next members)
    (blank : Space space) (begun : LiteralFront front scan) (b : UInt8) :
    Reached (bs ++ 0x7b :: (membersBefore members ++ (space ++ (front ++ [b]))))
      (Reader.step (.reading scan next (.object (members.map Member.entry).reverse :: stack)) b) := by
  cases begun.step next (.object (members.map Member.entry).reverse :: stack) b with
  | @ended text literal accepted =>
      have haccept : acceptString text next
          (.object (members.map Member.entry).reverse :: stack) =
            .reading .blank .colon
              (.member (members.map Member.entry).reverse text :: stack) := by
        rcases awaits with rfl | ⟨rfl, -⟩ <;> rfl
      have hname := NameText.intro blank literal space_nil
      rw [List.append_nil] at hname
      rw [accepted, haccept]
      exact .named outer written hname
  | continued front reading =>
      rw [reading]
      exact .name outer written awaits blank front
  | refused refused =>
      rw [refused]
      exact .refused _

/-- Behind a name, a byte is white space, a colon or refused. -/
theorem Reached.named_step {bs head : Bytes} {stack : List Frame} {members : List Member}
    {name : Option String} (outer : Opened bs stack)
    (written : ∀ member ∈ members, member.Written) (named : NameText head name) (b : UInt8) :
    Reached (bs ++ 0x7b :: (membersBefore members ++ (head ++ [b])))
      (between b .colon (.member (members.map Member.entry).reverse name :: stack)) := by
  by_cases hb : isSpace b
  · simp only [between, hb, if_true]
    obtain ⟨lead_blank, literal, gap_blank⟩ := named
    have hname := NameText.intro lead_blank literal (forall_mem_concat gap_blank hb)
    simpa using Reached.named outer written hname
  · simp only [between, hb, Bool.false_eq_true, if_false]
    split
    · rename_i hcolon
      have hmember := Opened.member outer written named space_nil
      simpa [hcolon] using Reached.awaiting hmember (.inl rfl)
    · exact .refused _

/-- Inside a word, the next byte of the word goes on with it or ends it. -/
theorem Reached.word_step {bs front rest : Bytes} {value : Json} {next : Next}
    {stack : List Frame} (outer : Opened bs stack) (written : ValueText (front ++ rest) value)
    (ne_nil : rest ≠ []) (b : UInt8) :
    Reached (bs ++ (front ++ [b])) (Reader.step (.reading (.word rest value) next stack) b) := by
  obtain ⟨e, es, rfl⟩ := List.exists_cons_of_ne_nil ne_nil
  simp only [Reader.step]
  split
  · exact .refused _
  · rename_i hb
    obtain rfl : b = e := not_not.mp hb
    split
    · rename_i hlast
      obtain rfl : es = [] := List.isEmpty_iff.mp hlast
      simpa using Reached.held outer written space_nil rfl
    · rename_i hmore
      have hrest : front ++ b :: es = front ++ [b] ++ es := by simp
      exact .word outer (hrest ▸ written) (by simpa using hmore)

/-- Inside a number, a byte goes on with it, or comes behind it if it may end. -/
theorem Reached.number_step {bs front : Bytes} {part : NumeralPart} {n : Numeral} {next : Next}
    {stack : List Frame} (outer : Opened bs stack) (begun : NumberFront front part n) (b : UInt8) :
    Reached (bs ++ (front ++ [b])) (Reader.step (.reading (.number part n) next stack) b) := by
  simp only [Reader.step]
  split
  · rename_i part' n' hcontinue
    exact .number outer (begun.step hcontinue)
  · split
    · exact .refused _
    · rename_i n' hfinish
      obtain ⟨next', stack', hopen⟩ := outer.accept_eq (.number n')
      rw [hopen]
      simpa using Reached.behind outer (.number (begun.finish hfinish)) space_nil hopen b

/-- **A byte leads from state to state.** -/
theorem Reached.step {bs : Bytes} {r : Reader} (h : Reached bs r) (b : UInt8) :
    Reached (bs ++ [b]) (r.step b) := by
  cases h with
  | refused => exact .refused _
  | awaiting outer awaits => exact .awaiting_step outer awaits b
  | naming outer written awaits blank =>
      simpa [Reader.step] using Reached.naming_step outer written awaits blank b
  | named outer written named =>
      simpa [Reader.step] using Reached.named_step outer written named b
  | @held bs text space value stack r outer written blank accepted =>
      obtain ⟨next, stack', hopen⟩ := outer.accept_eq value
      rw [accepted, hopen]
      exact .behind outer written blank hopen b
  | word outer written ne_nil => simpa using Reached.word_step outer written ne_nil b
  | number outer begun => simpa using Reached.number_step outer begun b
  | string outer awaits begun => simpa using Reached.string_step outer awaits begun b
  | name outer written awaits blank begun =>
      simpa using Reached.name_step outer written awaits blank begun b

/-- **Whatever was taken in leads to a state that it is reached by.** -/
theorem reached_foldl (bs : Bytes) : Reached bs (bs.foldl Reader.step Reader.start) := by
  induction bs using List.reverseRecOn with
  | nil => exact .awaiting (.document space_nil) (.inl rfl)
  | append_singleton bs b ih =>
      rw [List.foldl_append]
      exact ih.step b

/-- A value with white space around it is a document. -/
theorem documentText_of_value {before text behind : Bytes} {value : Json} (before_blank : Space before)
    (written : ValueText text value) (behind_blank : Space behind) :
    DocumentText (before ++ (text ++ behind)) value :=
  ⟨⟨before, text, behind, value⟩, ⟨before_blank, behind_blank⟩, written, rfl, rfl⟩

/-- A literal that has been begun is not the end. -/
theorem LiteralFront.finish?_eq {bs : Bytes} {scan : Scan} (h : LiteralFront bs scan) (next : Next)
    (stack : List Frame) : (Reader.reading scan next stack).finish? = none := by
  cases h <;> rfl

/-- Where the input may end, a text of the document has been taken in. -/
theorem Reached.finish {bs : Bytes} {r : Reader} {document : Json} (h : Reached bs r)
    (hfinish : r.finish? = some document) : DocumentText bs document := by
  cases h with
  | refused => exact absurd hfinish nofun
  | awaiting outer awaits =>
      rcases awaits.eq_or with rfl | rfl <;> exact absurd hfinish nofun
  | naming outer written awaits blank =>
      rcases awaits with rfl | ⟨rfl, -⟩ <;> exact absurd hfinish nofun
  | named => exact absurd hfinish nofun
  | held outer written blank accepted =>
      subst accepted
      cases outer with
      | document before =>
          obtain rfl := Option.some.inj hfinish
          exact documentText_of_value before written blank
      | array => exact absurd hfinish nofun
      | member => exact absurd hfinish nofun
  | word => exact absurd hfinish nofun
  | @number bs front part n next stack outer begun =>
      cases outer with
      | document before =>
          obtain ⟨m, hm, rfl⟩ := Option.map_eq_some_iff.mp hfinish
          simpa using documentText_of_value before (.number (begun.finish hm)) space_nil
      | array => exact absurd hfinish nofun
      | member => exact absurd hfinish nofun
  | string outer awaits begun => exact absurd ((begun.finish?_eq _ _).symm.trans hfinish) nofun
  | name outer written awaits blank begun =>
      exact absurd ((begun.finish?_eq _ _).symm.trans hfinish) nofun

/-- **Documents are read from their texts, and from nothing else.** -/
theorem parse_eq_some_iff {bs : Bytes} {document : Json} :
    parse bs = some document ↔ DocumentText bs document :=
  ⟨(reached_foldl bs).finish, parse_of_documentText⟩

end AttestedModel.Json

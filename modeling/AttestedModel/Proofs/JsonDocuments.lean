import AttestedModel.Json.Record
import AttestedModel.Proofs.JsonGrammar

/-!
# Documents are read as they are written

A layout puts white space where a document may have it: behind commas, inside brackets
and behind colons.  The compact and the indented form are two of them
(`Layout.print_compact`, `Layout.print_indented`).

A document is `Writable` if its numerals are proper and its strings and names are
texts.  By induction over such a document, its form in any layout is one that the
grammar has (`Writable.printable`); inside an array or an object the same is true of any
number of items or members.  From this every writable document is read back from its
texts (`parse_toCompact`, `parse_toPretty`).

The second part is about records: the values under distinct names are found again
under these names (`fields?_record`).
-/

namespace AttestedModel.Json

/-- Documents whose texts are JSON. -/
inductive Writable : Json → Prop
  | null : Writable .null
  | bool (value : Bool) : Writable (.bool value)
  | number {n : Numeral} (proper : n.Proper) : Writable (.number n)
  | string (text : String) : Writable (.string (some text))
  | array {items : List Json} (items_writable : ∀ item ∈ items, Writable item) :
      Writable (.array items)
  | object {members : List (Option String × Json)}
      (names : ∀ member ∈ members, ∃ name, member.1 = some name)
      (values : ∀ member ∈ members, Writable member.2) : Writable (.object members)

/-- White space of JSON, and nothing else. -/
def Blank (cs : List Char) : Prop :=
  ∀ c ∈ cs, c ∈ [' ', '\n', '\r', '\t']

/-- The white space between the tokens of a document. -/
structure Layout where
  /-- What comes before an item or a member, or before a closing bracket, at a depth. -/
  line : Nat → List Char
  /-- What comes behind a colon. -/
  gap : List Char
  line_blank : ∀ depth, Blank (line depth)
  gap_blank : Blank gap

namespace Layout

mutual

/-- The document in a layout, at a depth. -/
def print (layout : Layout) (depth : Nat) : Json → List Char
  | null => ['n', 'u', 'l', 'l']
  | bool true => ['t', 'r', 'u', 'e']
  | bool false => ['f', 'a', 'l', 's', 'e']
  | number n => n.chars
  | string s => quoteText s
  | array [] => ['[', ']']
  | array (item :: items) =>
    '[' :: (layout.line (depth + 1) ++ (print layout (depth + 1) item ++
      (printItems layout depth items ++ (layout.line depth ++ [']']))))
  | object [] => ['\x7b', '\x7d']
  | object ((name, value) :: members) =>
    '\x7b' :: (layout.line (depth + 1) ++ (quoteText name ++ ':' :: (layout.gap ++
      (print layout (depth + 1) value ++
        (printMembers layout depth members ++ (layout.line depth ++ ['\x7d']))))))

/-- The further items of an array at a depth. -/
def printItems (layout : Layout) (depth : Nat) : List Json → List Char
  | [] => []
  | item :: items =>
    ',' :: (layout.line (depth + 1) ++
      (print layout (depth + 1) item ++ printItems layout depth items))

/-- The further members of an object at a depth. -/
def printMembers (layout : Layout) (depth : Nat) : List (Option String × Json) → List Char
  | [] => []
  | (name, value) :: members =>
    ',' :: (layout.line (depth + 1) ++ (quoteText name ++ ':' :: (layout.gap ++
      (print layout (depth + 1) value ++ printMembers layout depth members))))

end

/-- No white space at all. -/
def compact : Layout where
  line _ := []
  gap := []
  line_blank _ := nofun
  gap_blank := nofun

/-- A line for each item and each member, indented by its depth. -/
def indented : Layout where
  line := newline
  gap := [' ']
  line_blank depth := by
    intro c hc
    rcases List.mem_cons.mp hc with rfl | hc
    · decide
    · rw [List.eq_of_mem_replicate hc]
      decide
  gap_blank := by
    intro c hc
    rw [List.mem_singleton.mp hc]
    decide

@[simp] theorem compact_line (depth : Nat) : compact.line depth = [] :=
  rfl

@[simp] theorem compact_gap : compact.gap = [] :=
  rfl

@[simp] theorem indented_line (depth : Nat) : indented.line depth = newline depth :=
  rfl

@[simp] theorem indented_gap : indented.gap = [' '] :=
  rfl

mutual

/-- A document in the layout without white space is the compact one. -/
theorem print_compact (depth : Nat) : ∀ document : Json,
    compact.print depth document = document.compact
  | .null => rfl
  | .bool true => rfl
  | .bool false => rfl
  | .number _ => rfl
  | .string _ => rfl
  | .array [] => rfl
  | .array (item :: items) => by
      simp [print, Json.compact, print_compact (depth + 1) item, printItems_compact depth items]
  | .object [] => rfl
  | .object ((_, value) :: members) => by
      simp [print, Json.compact, print_compact (depth + 1) value,
        printMembers_compact depth members]

/-- The further items of an array in the layout without white space are the compact ones. -/
theorem printItems_compact (depth : Nat) : ∀ items : List Json,
    compact.printItems depth items = compactItems items
  | [] => rfl
  | item :: items => by
      simp [printItems, compactItems, print_compact (depth + 1) item,
        printItems_compact depth items]

/-- The further members of an object in the layout without white space are the compact ones. -/
theorem printMembers_compact (depth : Nat) : ∀ members : List (Option String × Json),
    compact.printMembers depth members = compactMembers members
  | [] => rfl
  | (_, value) :: members => by
      simp [printMembers, compactMembers, print_compact (depth + 1) value,
        printMembers_compact depth members]

end

mutual

/-- A document in the layout of lines is the indented one. -/
theorem print_indented (depth : Nat) : ∀ document : Json,
    indented.print depth document = document.indented depth
  | .null => rfl
  | .bool true => rfl
  | .bool false => rfl
  | .number _ => rfl
  | .string _ => rfl
  | .array [] => rfl
  | .array (item :: items) => by
      simp [print, Json.indented, print_indented (depth + 1) item,
        printItems_indented depth items]
  | .object [] => rfl
  | .object ((_, value) :: members) => by
      simp [print, Json.indented, print_indented (depth + 1) value,
        printMembers_indented depth members]

/-- The further items of an array in the layout of lines are the indented ones. -/
theorem printItems_indented (depth : Nat) : ∀ items : List Json,
    indented.printItems depth items = indentedItems depth items
  | [] => rfl
  | item :: items => by
      simp [printItems, indentedItems, print_indented (depth + 1) item,
        printItems_indented depth items]

/-- The further members of an object in the layout of lines are the indented ones. -/
theorem printMembers_indented (depth : Nat) : ∀ members : List (Option String × Json),
    indented.printMembers depth members = indentedMembers depth members
  | [] => rfl
  | (_, value) :: members => by
      simp [printMembers, indentedMembers, print_indented (depth + 1) value,
        printMembers_indented depth members]

end

end Layout

/-- Blank characters are white space. -/
theorem Blank.space {cs : List Char} (h : Blank cs) : Space (bytesOf cs) := by
  induction cs with
  | nil => exact space_nil
  | cons c cs ih =>
      have hc : c.toNat < 128 ∧ isSpace (UInt8.ofNat c.toNat) = true := by
        have hc := h c List.mem_cons_self
        simp only [List.mem_cons, List.not_mem_nil, or_false] at hc
        rcases hc with rfl | rfl | rfl | rfl <;> decide
      rw [bytesOf_cons hc.1]
      exact List.forall_mem_cons.mpr ⟨hc.2, ih fun d hd => h d (List.mem_cons_of_mem c hd)⟩

/-- A text is written as a literal of the text, quotes and all. -/
theorem stringText_quoteText (text : String) :
    StringText (bytesOf (quoteText (some text))) (some text) := by
  have htext : String.ofList ((some text).getD "").toList = text := String.ofList_toList
  have hquote := stringText_quote ((some text).getD "").toList
  rwa [htext] at hquote

variable {layout : Layout}

/-- A document is written as the grammar has it, at any depth. -/
def Printable (layout : Layout) (document : Json) : Prop :=
  ∀ depth, ValueText (bytesOf (layout.print depth document)) document

/-- The items of an array from one of them on, with the line before the closing bracket, are written
as the grammar has them. -/
theorem exists_items {items : List Json} (h : ∀ item ∈ items, Printable layout item) (depth : Nat)
    {value : Json} (hvalue : Printable layout value) :
    ∃ (first : Item) (more : List Item), (∀ item ∈ first :: more, item.Spaced) ∧
      (∀ item ∈ first :: more, ValueText item.text item.value) ∧
      (first :: more).map Item.value = value :: items ∧
      first.bytes ++ furtherItems more =
        bytesOf (layout.line (depth + 1) ++ (layout.print (depth + 1) value ++
          (layout.printItems depth items ++ layout.line depth))) := by
  have hline := fun depth => (layout.line_blank depth).space
  induction items generalizing value with
  | nil =>
      refine ⟨⟨bytesOf (layout.line (depth + 1)), bytesOf (layout.print (depth + 1) value),
        bytesOf (layout.line depth), value⟩, [], ?_, ?_, rfl, ?_⟩
      · simpa using ⟨hline (depth + 1), hline depth⟩
      · simpa using hvalue (depth + 1)
      · simp [Item.bytes, furtherItems, Layout.printItems]
  | cons item items ih =>
      obtain ⟨next, more, hspaced, hvalues, hitems, hbytes⟩ :=
        ih (fun i hi => h i (List.mem_cons_of_mem item hi)) (h item List.mem_cons_self)
      refine ⟨⟨bytesOf (layout.line (depth + 1)), bytesOf (layout.print (depth + 1) value), [],
        value⟩, next :: more, List.forall_mem_cons.mpr ⟨⟨hline (depth + 1), space_nil⟩, hspaced⟩,
        List.forall_mem_cons.mpr ⟨hvalue (depth + 1), hvalues⟩, ?_, ?_⟩
      · rw [List.map_cons, hitems]
      · have hfurther : furtherItems (next :: more) =
            0x2c :: (next.bytes ++ furtherItems more) := by simp [furtherItems]
        rw [hfurther, hbytes, Layout.printItems]
        simp (disch := decide) [Item.bytes, bytesOf_cons]

/-- The members of an object from one of them on, with the line before the closing brace, are
written as the grammar has them. -/
theorem exists_members {members : List (Option String × Json)}
    (hnames : ∀ member ∈ members, ∃ name, member.1 = some name)
    (h : ∀ member ∈ members, Printable layout member.2) (depth : Nat) {name : String}
    {value : Json} (hvalue : Printable layout value) :
    ∃ (first : Member) (more : List Member), (∀ member ∈ first :: more, member.Named) ∧
      (∀ member ∈ first :: more, ValueText member.text member.value) ∧
      (first :: more).map Member.entry = (some name, value) :: members ∧
      first.bytes ++ furtherMembers more =
        bytesOf (layout.line (depth + 1) ++ (quoteText (some name) ++ ':' :: (layout.gap ++
          (layout.print (depth + 1) value ++
            (layout.printMembers depth members ++ layout.line depth))))) := by
  have hline := fun depth => (layout.line_blank depth).space
  have hgap := layout.gap_blank.space
  induction members generalizing name value with
  | nil =>
      let first : Member :=
        { before := bytesOf layout.gap, text := bytesOf (layout.print (depth + 1) value)
          behind := bytesOf (layout.line depth), value
          lead := bytesOf (layout.line (depth + 1)), nameText := bytesOf (quoteText (some name))
          gap := [], name := some name }
      have hfirst : first.Named :=
        ⟨hline (depth + 1), stringText_quoteText name, space_nil, hgap, hline depth⟩
      refine ⟨first, [], ?_, ?_, rfl, ?_⟩
      · simpa using hfirst
      · simpa using hvalue (depth + 1)
      · simp (disch := decide) [first, Member.bytes, Item.bytes, furtherMembers, Layout.printMembers,
          bytesOf_cons]
  | cons member members ih =>
      obtain ⟨name', value'⟩ := member
      obtain ⟨text, rfl⟩ : ∃ text, name' = some text := hnames (name', value') List.mem_cons_self
      obtain ⟨next, more, hnamed, hvalues, hmembers, hbytes⟩ :=
        @ih (fun m hm => hnames m (List.mem_cons_of_mem _ hm))
          (fun m hm => h m (List.mem_cons_of_mem _ hm)) text value' (h _ List.mem_cons_self)
      let first : Member :=
        { before := bytesOf layout.gap, text := bytesOf (layout.print (depth + 1) value)
          behind := [], value
          lead := bytesOf (layout.line (depth + 1)), nameText := bytesOf (quoteText (some name))
          gap := [], name := some name }
      have hfirst : first.Named :=
        ⟨hline (depth + 1), stringText_quoteText name, space_nil, hgap, space_nil⟩
      refine ⟨first, next :: more, List.forall_mem_cons.mpr ⟨hfirst, hnamed⟩,
        List.forall_mem_cons.mpr ⟨hvalue (depth + 1), hvalues⟩, ?_, ?_⟩
      · rw [List.map_cons, hmembers]
        rfl
      · have hfurther : furtherMembers (next :: more) =
            0x2c :: (next.bytes ++ furtherMembers more) := by simp [furtherMembers]
        rw [hfurther, hbytes, Layout.printMembers]
        simp (disch := decide) [first, Member.bytes, Item.bytes, bytesOf_cons]

/-- **A writable document is written as the grammar has it**, in any layout and at any depth. -/
theorem Writable.printable {document : Json} (h : Writable document) : Printable layout document := by
  induction h with
  | null => exact fun _ => .null
  | bool value =>
      intro depth
      cases value
      · exact .false
      · exact .true
  | number proper => exact fun _ => .number (numeralText_chars proper)
  | string text => exact fun _ => .string (stringText_quoteText text)
  | @array items items_writable ih =>
      intro depth
      cases items with
      | nil => exact .emptyArray space_nil
      | cons item items =>
          obtain ⟨first, more, hspaced, hvalues, hitems, hbytes⟩ :=
            exists_items (fun i hi => ih i (List.mem_cons_of_mem item hi)) depth
              (ih item List.mem_cons_self)
          have htext := ValueText.array hspaced hvalues
          rw [hitems, ← List.append_assoc, hbytes] at htext
          simpa (disch := decide) [Layout.print, bytesOf_cons] using htext
  | @object members names values ih =>
      intro depth
      cases members with
      | nil => exact .emptyObject space_nil
      | cons member members =>
          obtain ⟨name, value⟩ := member
          obtain ⟨text, rfl⟩ : ∃ text, name = some text := names (name, value) List.mem_cons_self
          obtain ⟨first, more, hnamed, hvalues, hmembers, hbytes⟩ :=
            @exists_members _ members (fun m hm => names m (List.mem_cons_of_mem _ hm))
              (fun m hm => ih m (List.mem_cons_of_mem _ hm)) depth text value
              (ih _ List.mem_cons_self)
          have htext := ValueText.object hnamed hvalues
          rw [hmembers, ← List.append_assoc, hbytes] at htext
          simpa (disch := decide) [Layout.print, bytesOf_cons] using htext

/-- The form of a writable document in any layout is a text of it. -/
theorem Writable.documentText {document : Json} (h : Writable document) (layout : Layout) :
    DocumentText (Text.Utf8.encode (String.ofList (layout.print 0 document))) document := by
  let item : Item :=
    { before := [], text := bytesOf (layout.print 0 document), behind := [], value := document }
  have htext : bytesOf (layout.print 0 document) = item.bytes := (List.append_nil _).symm
  rw [encode_ofList]
  exact ⟨item, ⟨space_nil, space_nil⟩, h.printable 0, htext, rfl⟩

/-- **The compact text of a document is one by the grammar.** -/
theorem documentText_toCompact {document : Json} (h : Writable document) :
    DocumentText (Text.Utf8.encode document.toCompact) document := by
  rw [toCompact, ← Layout.print_compact 0]
  exact h.documentText .compact

/-- **The text of a document over many lines is one by the grammar.** -/
theorem documentText_toPretty {document : Json} (h : Writable document) :
    DocumentText (Text.Utf8.encode document.toPretty) document := by
  rw [toPretty, ← Layout.print_indented 0]
  exact h.documentText .indented

/-- **Every writable document is read back from its text.** -/
theorem parse_toCompact {document : Json} (h : Writable document) :
    parse (Text.Utf8.encode document.toCompact) = some document :=
  parse_of_documentText (documentText_toCompact h)

/-- **Every writable document is read back from its text over many lines.** -/
theorem parse_toPretty {document : Json} (h : Writable document) :
    parse (Text.Utf8.encode document.toPretty) = some document :=
  parse_of_documentText (documentText_toPretty h)

/-- A record can be written if its values can. -/
theorem writable_record {members : List (String × Json)}
    (h : ∀ member ∈ members, Writable member.2) : Writable (record members) := by
  refine .object ?_ ?_
  · intro member hmember
    obtain ⟨m, -, rfl⟩ := List.mem_map.mp hmember
    exact ⟨m.1, rfl⟩
  · intro member hmember
    obtain ⟨m, hm, rfl⟩ := List.mem_map.mp hmember
    exact h m hm

/-- A text can be written, and so can the null that stands for none. -/
theorem writable_ofOptionalText (text : Option String) : Writable (ofOptionalText text) := by
  cases text with
  | none => exact .null
  | some text => exact .string text

/-- A text that may be missing is read as it was written. -/
theorem optionalText?_ofOptionalText (text : Option String) :
    (ofOptionalText text).optionalText? = some text := by
  cases text <;> rfl

/-- A member of distinct names is the only one of its name. -/
theorem filter_name {members : List (String × Json)} (hdistinct : (members.map Prod.fst).Nodup)
    {name : String} {value : Json} (h : (name, value) ∈ members) :
    (members.map fun m => (some m.1, m.2)).filter (·.1 = some name) = [(some name, value)] := by
  induction members with
  | nil => exact absurd h List.not_mem_nil
  | cons m members ih =>
      obtain ⟨hfirst, hrest⟩ := List.nodup_cons.mp hdistinct
      rw [List.map_cons]
      rcases List.mem_cons.mp h with rfl | h
      · have hnone : (members.map fun m => (some m.1, m.2)).filter (·.1 = some name) = [] := by
          refine List.filter_eq_nil_iff.mpr fun member hmember => ?_
          obtain ⟨m, hm, rfl⟩ := List.mem_map.mp hmember
          intro hname
          have hname : m.1 = name := by simpa using hname
          exact hfirst (List.mem_map.mpr ⟨m, hm, hname⟩)
        rw [List.filter_cons_of_pos (by simp), hnone]
      · have hother : m.1 ≠ name := fun hname => hfirst (List.mem_map.mpr ⟨_, h, hname.symm⟩)
        rw [List.filter_cons_of_neg (by simpa using hother), ih hrest h]

/-- The values under distinct names are found in the order of the fields that ask for them. -/
theorem namedValues_eq {all : List (String × Json)} (hdistinct : (all.map Prod.fst).Nodup)
    {fs : List Field} {members : List (String × Json)} (hsubset : ∀ m ∈ members, m ∈ all)
    (hnames : members.map Prod.fst = fs.map Field.name) :
    namedValues (all.map fun m => (some m.1, m.2)) fs = some (members.map Prod.snd) := by
  induction members generalizing fs with
  | nil =>
      obtain rfl : fs = [] := List.map_eq_nil_iff.mp hnames.symm
      rfl
  | cons m members ih =>
      cases fs with
      | nil => exact absurd hnames nofun
      | cons field fs =>
          obtain ⟨hname, hnames⟩ := List.cons.inj hnames
          have hvalue := filter_name hdistinct (hsubset m List.mem_cons_self)
          have hrest := ih (fun m hm => hsubset m (List.mem_cons_of_mem _ hm)) hnames
          unfold namedValues at hrest ⊢
          rw [List.mapM_cons, ← hname, hvalue, hrest]
          rfl

/-- **A record is read back.**  The values under the declared names, all distinct, are its
values in the order of declaration. -/
theorem fields?_record {fs : List Field} {members : List (String × Json)}
    (hnames : members.map Prod.fst = fs.map Field.name) (hdistinct : (fs.map Field.name).Nodup) :
    (record members).fields? fs = some (members.map Prod.snd) := by
  have hall : (members.map fun m => (some m.1, m.2)).all (·.1.isSome) = true := by simp
  refine (if_pos hall).trans ?_
  exact namedValues_eq (hnames ▸ hdistinct) (fun m hm => hm) hnames

end AttestedModel.Json

import Mathlib.Data.List.Infix

/-!
# Event streams

The text of a stream of server-sent events, as its receiver reads it: one character at a
time, so that it does not matter how the text is cut on its way.

* `Reader.feed` — one character; `read` — a text.
* `Line.text` — how a sender writes a field or a comment.
* `messages_prefix` — what has been dispatched stays dispatched.
* `Item` — the comments and events that a sender writes; `read_item` — one is read as itself,
  and `read_cut` — of a text that is cut off, the events that are there as a whole.
-/

namespace EventStream

/-- An event as the receiver dispatches it. -/
structure Message where
  type : List Char
  data : List Char
  lastEventId : List Char
deriving DecidableEq

/-- The receiver: the line it is in, whether a line feed would belong to the line end before
it, its buffers, and what it has dispatched. -/
structure Reader where
  line : List Char
  afterReturn : Bool
  data : List Char
  type : List Char
  lastEventId : List Char
  messages : List Message
deriving DecidableEq

/-- The receiver before the first character. -/
def Reader.start : Reader := ⟨[], false, [], [], [], []⟩

/-- The value of a field, less one leading space. -/
def fieldValue : List Char → List Char
  | ' ' :: value => value
  | value => value

/-- A field is processed.  A reconnection time changes nothing that is read. -/
def Reader.field (r : Reader) (name value : List Char) : Reader :=
  if name = "event".toList then { r with type := value }
  else if name = "data".toList then { r with data := r.data ++ value ++ ['\n'] }
  else if name = "id".toList ∧ '\x00' ∉ value then { r with lastEventId := value }
  else r

/-- A blank line: an event without data is dropped, any other is dispatched, of the type
"message" when it names none. -/
def Reader.dispatch (r : Reader) : Reader :=
  { r with
    data := []
    type := []
    messages := if r.data = [] then r.messages else r.messages ++
      [⟨if r.type = [] then "message".toList else r.type, r.data.dropLast, r.lastEventId⟩] }

/-- A line that has ended. -/
def Reader.process (r : Reader) (line : List Char) : Reader :=
  if line = [] then r.dispatch
  else match line.span (· ≠ ':') with
    | ([], _) => r
    | (name, []) => r.field name []
    | (name, _ :: value) => r.field name (fieldValue value)

/-- The line ends. -/
def Reader.endLine (r : Reader) : Reader :=
  { r with line := [] }.process r.line

/-- One character: a carriage return, a line feed, or both in this order, end a line. -/
def Reader.feed (r : Reader) (c : Char) : Reader :=
  if c = '\r' then { r.endLine with afterReturn := true }
  else if c = '\n' then
    if r.afterReturn then { r with afterReturn := false }
    else r.endLine
  else { r with line := r.line ++ [c], afterReturn := false }

/-- What the receiver makes of a text. -/
def Reader.feeds (r : Reader) (text : List Char) : Reader := text.foldl Reader.feed r

/-- What a receiver makes of a text from its first character on. -/
def read (text : List Char) : Reader := Reader.start.feeds text

@[simp] theorem feeds_nil (r : Reader) : r.feeds [] = r := rfl

@[simp] theorem feeds_cons (r : Reader) (c : Char) (text : List Char) :
    r.feeds (c :: text) = (r.feed c).feeds text := rfl

/-- It does not matter where a text is cut. -/
@[simp] theorem feeds_append (r : Reader) (s t : List Char) :
    r.feeds (s ++ t) = (r.feeds s).feeds t := by
  simp [Reader.feeds]

/-! ## Dispatched events -/

theorem messages_field (r : Reader) (name value : List Char) :
    (r.field name value).messages = r.messages := by
  unfold Reader.field
  split_ifs <;> rfl

theorem messages_process (r : Reader) (line : List Char) :
    r.messages <+: (r.process line).messages := by
  unfold Reader.process
  split
  · -- only a blank line dispatches
    simp only [Reader.dispatch]
    split
    · exact List.prefix_refl _
    · exact List.prefix_append ..
  · split
    · exact List.prefix_refl _
    · rw [messages_field]
    · rw [messages_field]

theorem messages_feed (r : Reader) (c : Char) : r.messages <+: (r.feed c).messages := by
  have hend : r.messages <+: r.endLine.messages := messages_process { r with line := [] } r.line
  unfold Reader.feed
  split_ifs
  · exact hend
  · exact List.prefix_refl _
  · exact hend
  · exact List.prefix_refl _

/-- **What has been dispatched stays dispatched**, whatever comes. -/
theorem messages_prefix (r : Reader) (text : List Char) :
    r.messages <+: (r.feeds text).messages := by
  induction text generalizing r with
  | nil => exact List.prefix_refl _
  | cons c text ih => exact (messages_feed r c).trans (ih _)

/-! ## Lines -/

/-- No character of the text ends a line. -/
def Unbroken (text : List Char) : Prop := '\r' ∉ text ∧ '\n' ∉ text

instance (text : List Char) : Decidable (Unbroken text) :=
  inferInstanceAs (Decidable (_ ∧ _))

theorem Unbroken.append {s t : List Char} (hs : Unbroken s) (ht : Unbroken t) :
    Unbroken (s ++ t) := by
  simp only [Unbroken, List.mem_append, not_or] at *
  exact ⟨⟨hs.1, ht.1⟩, hs.2, ht.2⟩

/-- A receiver at the beginning of a line. -/
structure Reader.AtLine (r : Reader) : Prop where
  line : r.line = []
  afterReturn : r.afterReturn = false

/-- A part of a line is kept. -/
theorem feeds_unbroken {text : List Char} (h : Unbroken text) (r : Reader)
    (hr : r.afterReturn = false) : r.feeds text = { r with line := r.line ++ text } := by
  induction text generalizing r with
  | nil => simp
  | cons c text ih =>
      simp only [Unbroken, List.mem_cons, not_or] at h
      obtain ⟨⟨hreturn, hreturns⟩, hfeed, hfeeds⟩ := h
      have hc : r.feed c = { r with line := r.line ++ [c] } := by
        simp [Reader.feed, Ne.symm hreturn, Ne.symm hfeed, hr]
      rw [feeds_cons, hc, ih ⟨hreturns, hfeeds⟩ { r with line := r.line ++ [c] } hr]
      simp

/-- A line, from its beginning to its end. -/
theorem feeds_line {line : List Char} (h : Unbroken line) {r : Reader} (hr : r.AtLine) :
    r.feeds (line ++ ['\n']) = r.process line := by
  obtain ⟨hline, hreturn⟩ := hr
  rw [feeds_append, feeds_unbroken h r hreturn, hline]
  have hself : { r with line := [], afterReturn := false } = r := by rw [← hline, ← hreturn]
  simp only [feeds_cons, feeds_nil, Reader.feed, hreturn, Reader.endLine, List.nil_append]
  exact congrArg (Reader.process · line) hself

theorem Reader.AtLine.field {r : Reader} (h : r.AtLine) (name value : List Char) :
    (r.field name value).AtLine := by
  unfold Reader.field
  split_ifs <;> exact ⟨h.line, h.afterReturn⟩

/-! ## Written events -/

/-- A line of a sender. -/
inductive Line where
  | comment (text : List Char)
  | field (name value : List Char)

/-- The characters of a line, less its end. -/
def Line.body : Line → List Char
  | comment text => ':' :: text
  | field name value => name ++ ':' :: ' ' :: value

/-- The line and its end. -/
def Line.text (line : Line) : List Char := line.body ++ ['\n']

/-- The line has one end. -/
def Line.Sound : Line → Prop
  | comment text => Unbroken text
  | field name value => name ≠ [] ∧ ':' ∉ name ∧ Unbroken name ∧ Unbroken value

theorem Line.Sound.body {line : Line} (h : line.Sound) : Unbroken line.body := by
  cases line with
  | comment text => exact Unbroken.append (s := [':']) (by decide) h
  | field name value =>
      obtain ⟨-, -, hname, hvalue⟩ := h
      exact hname.append (Unbroken.append (s := [':', ' ']) (by decide) hvalue)

/-- What a line does. -/
def Reader.take (r : Reader) : Line → Reader
  | .comment _ => r
  | .field name value => r.field name value

/-- **A written line is read as itself.** -/
theorem feeds_text {line : Line} (h : line.Sound) {r : Reader} (hr : r.AtLine) :
    r.feeds line.text = r.take line := by
  rw [Line.text, feeds_line h.body hr]
  cases line with
  | comment text => simp [Line.body, Reader.process, Reader.take]
  | field name value =>
      obtain ⟨hne, hcolon, -, -⟩ := h
      have hspan : (name ++ ':' :: ' ' :: value).span (· ≠ ':') = (name, ':' :: ' ' :: value) := by
        rw [List.span_eq_takeWhile_dropWhile]
        have hname : ∀ c ∈ name, decide (c ≠ ':') = true := by
          intro c hc
          simpa using fun heq : c = ':' => hcolon (heq ▸ hc)
        rw [List.takeWhile_append_of_pos hname, List.dropWhile_append_of_pos hname]
        simp
      simp only [Line.body, Reader.process, hspan, Reader.take, fieldValue, List.append_eq_nil_iff,
        hne, false_and, if_false]

/-- Comments and fields dispatch nothing, and end where the next line begins. -/
theorem Reader.AtLine.take {r : Reader} (h : r.AtLine) (line : Line) :
    (r.take line).AtLine ∧ (r.take line).messages = r.messages := by
  cases line with
  | comment text => exact ⟨h, rfl⟩
  | field name value => exact ⟨h.field name value, messages_field ..⟩

/-- A receiver between two events. -/
structure Reader.Idle (r : Reader) : Prop extends r.AtLine where
  data : r.data = []
  type : r.type = []

theorem idle_start : Reader.start.Idle := ⟨⟨rfl, rfl⟩, rfl, rfl⟩

/-- The lines of an event or of comments, and the blank line after them. -/
def block (lines : List Line) : List Char := lines.flatMap Line.text ++ ['\n']

theorem feeds_lines {lines : List Line} (h : ∀ line ∈ lines, line.Sound) {r : Reader}
    (hr : r.AtLine) : r.feeds (lines.flatMap Line.text) = lines.foldl Reader.take r := by
  induction lines generalizing r with
  | nil => rfl
  | cons line lines ih =>
      rw [List.forall_mem_cons] at h
      rw [List.flatMap_cons, feeds_append, feeds_text h.1 hr, ih h.2 (hr.take line).1]
      rfl

theorem atLine_foldl (lines : List Line) {r : Reader} (hr : r.AtLine) :
    (lines.foldl Reader.take r).AtLine ∧ (lines.foldl Reader.take r).messages = r.messages := by
  induction lines generalizing r with
  | nil => exact ⟨hr, rfl⟩
  | cons line lines ih =>
      have htake := hr.take line
      have hrest := ih htake.1
      exact ⟨hrest.1, hrest.2.trans htake.2⟩

/-- A block does what its lines do, and dispatches. -/
theorem feeds_block {lines : List Line} (h : ∀ line ∈ lines, line.Sound) {r : Reader}
    (hr : r.AtLine) : r.feeds (block lines) = (lines.foldl Reader.take r).dispatch := by
  have hempty : Unbroken ([] : List Char) := by decide
  have hlast := feeds_line hempty (atLine_foldl lines hr).1
  rw [block, feeds_append, feeds_lines h hr]
  simpa [Reader.process] using hlast

/-- **Nothing is dispatched before the end of a block.** -/
theorem messages_of_prefix_block {lines : List Line} (h : ∀ line ∈ lines, line.Sound) {r : Reader}
    (hr : r.AtLine) {text : List Char} (ht : text <+: block lines) (hne : text ≠ block lines) :
    (r.feeds text).messages = r.messages := by
  -- the text ends within the lines, so that they dispatch all that it does
  have hlines : text <+: lines.flatMap Line.text := by
    rcases List.prefix_concat_iff.1 ht with heq | hprefix
    · exact absurd heq hne
    · exact hprefix
  have hall : (r.feeds (lines.flatMap Line.text)).messages = r.messages := by
    rw [feeds_lines h hr]
    exact (atLine_foldl lines hr).2
  obtain ⟨rest, hrest⟩ := hlines
  have hbefore := messages_prefix r text
  have hafter := messages_prefix (r.feeds text) rest
  rw [← feeds_append, hrest, hall] at hafter
  exact hafter.eq_of_length (le_antisymm hafter.length_le hbefore.length_le)

/-- A comment leaves a receiver between two events. -/
theorem read_comment {text : List Char} (h : Unbroken text) {r : Reader} (hr : r.Idle) :
    (r.feeds (block [.comment text])).Idle ∧
      (r.feeds (block [.comment text])).messages = r.messages := by
  have hsound : ∀ line ∈ [Line.comment text], line.Sound := by
    rw [List.forall_mem_singleton]
    exact h
  rw [feeds_block hsound hr.toAtLine]
  refine ⟨⟨⟨hr.line, hr.afterReturn⟩, rfl, rfl⟩, ?_⟩
  simp [Reader.take, Reader.dispatch, hr.data]

/-- The lines of an event with an id, a type and data. -/
def Message.lines (m : Message) : List Line :=
  [.field "id".toList m.lastEventId, .field "event".toList m.type, .field "data".toList m.data]

/-- The event can be written. -/
structure Message.Sound (m : Message) : Prop where
  type : Unbroken m.type
  type_ne : m.type ≠ []
  data : Unbroken m.data
  lastEventId : Unbroken m.lastEventId
  no_nul : '\x00' ∉ m.lastEventId

theorem Message.Sound.lines {m : Message} (h : m.Sound) : ∀ line ∈ m.lines, line.Sound := by
  simp only [Message.lines, List.forall_mem_cons]
  exact ⟨⟨by decide, by decide, by decide, h.lastEventId⟩,
    ⟨by decide, by decide, by decide, h.type⟩, ⟨by decide, by decide, by decide, h.data⟩, nofun⟩

/-- **A written event is read as itself.** -/
theorem read_block {m : Message} (h : m.Sound) {r : Reader} (hr : r.Idle) :
    (r.feeds (block m.lines)).Idle ∧
      (r.feeds (block m.lines)).messages = r.messages ++ [m] := by
  rw [feeds_block h.lines hr.toAtLine]
  have hfields : m.lines.foldl Reader.take r =
      { r with lastEventId := m.lastEventId, type := m.type, data := m.data ++ ['\n'] } := by
    simp [Message.lines, Reader.take, Reader.field, h.no_nul, hr.data]
  rw [hfields]
  refine ⟨⟨⟨hr.line, hr.afterReturn⟩, rfl, rfl⟩, ?_⟩
  simp [Reader.dispatch, h.type_ne]

/-! ## Sequences of comments and events -/

/-- What a sender writes at once. -/
inductive Item where
  | comment (text : List Char)
  | message (m : Message)

/-- The lines of an item. -/
def Item.lines : Item → List Line
  | comment text => [.comment text]
  | message m => m.lines

/-- The text of an item. -/
def Item.text (item : Item) : List Char := block item.lines

/-- The event of an item. -/
def Item.message? : Item → Option Message
  | message m => some m
  | comment _ => none

/-- The item can be written. -/
def Item.Sound : Item → Prop
  | comment text => Unbroken text
  | message m => m.Sound

theorem Item.Sound.lines {item : Item} (h : item.Sound) : ∀ line ∈ item.lines, line.Sound := by
  cases item with
  | comment text =>
      simp only [Item.lines, List.forall_mem_singleton]
      exact h
  | message m => exact Message.Sound.lines h

theorem read_item {item : Item} (h : item.Sound) {r : Reader} (hr : r.Idle) :
    (r.feeds item.text).Idle ∧
      (r.feeds item.text).messages = r.messages ++ item.message?.toList := by
  cases item with
  | comment text => simpa [Item.message?, Item.text, Item.lines] using read_comment h hr
  | message m => exact read_block h hr

/-- **A text that is cut off** tells the events that are there as a whole, and no other. -/
theorem read_cut {items : List Item} (h : ∀ item ∈ items, item.Sound) {r : Reader} (hr : r.Idle)
    {text : List Char} (ht : text <+: items.flatMap Item.text) :
    ∃ whole rest, items = whole ++ rest ∧ whole.flatMap Item.text <+: text ∧
      (∀ item ∈ rest.head?, ¬ (whole ++ [item]).flatMap Item.text <+: text) ∧
      (r.feeds text).messages = r.messages ++ whole.filterMap Item.message? := by
  induction items generalizing r text with
  | nil =>
      rw [List.prefix_nil.1 ht]
      exact ⟨[], [], rfl, List.prefix_refl _, nofun, by simp⟩
  | cons item items ih =>
      rw [List.forall_mem_cons] at h
      rw [List.flatMap_cons] at ht
      by_cases hitem : item.text <+: text
      · -- the first item is there, and the rest of the text is a part of the others
        obtain ⟨more, rfl⟩ := hitem
        obtain ⟨hidle, hmessages⟩ := read_item h.1 hr
        obtain ⟨whole, rest, rfl, hwhole, hnext, hread⟩ :=
          ih h.2 hidle ((List.prefix_append_right_inj _).1 ht)
        refine ⟨item :: whole, rest, rfl, ?_, ?_, ?_⟩
        · rw [List.flatMap_cons, List.prefix_append_right_inj]
          exact hwhole
        · intro next hmem
          rw [List.cons_append, List.flatMap_cons, List.prefix_append_right_inj]
          exact hnext next hmem
        · rw [feeds_append, hread, hmessages, List.append_assoc]
          cases hmessage : item.message? <;> simp [hmessage]
      · -- the first item is not there as a whole
        refine ⟨[], item :: items, rfl, List.nil_prefix, ?_, ?_⟩
        · intro next hmem
          cases Option.some.inj hmem
          simpa using hitem
        · have hprefix : text <+: item.text :=
            (List.prefix_or_prefix_of_prefix ht (List.prefix_append ..)).resolve_right hitem
          have hne : text ≠ item.text := fun heq => hitem (heq ▸ List.prefix_refl _)
          rw [messages_of_prefix_block h.1.lines hr.toAtLine hprefix hne]
          simp

end EventStream

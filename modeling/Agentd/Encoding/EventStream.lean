/-
# Server-sent events

The stream is read character by character.  A line ends at a CRLF pair, at an LF or at a CR; it is
a field with a name and a value, or a comment, and an empty line dispatches what the fields have
put into the buffers, unless there was no data.  The rest after the last line end dispatches
nothing, so what is read of a stream that breaks off is an initial part of what is read of the
whole (`decode_append`).

A message is written as the three lines of its fields and an empty line.  No line break is escaped,
so a field with one goes on in lines of its own.  A name that was read is never empty and never has
a line break (`Named.of_mem_decode`), and that is all that is lost: `decode_write_iff` says which
messages are read back.
-/

import Agentd.Data.Text

namespace Agentd
namespace Encoding

/-- The characters that end a line. -/
def isBreak (c : Char) : Bool := c = '\n' || c = '\r'

/-- A text on one line. -/
def OneLine (s : List Char) : Prop := ∀ c ∈ s, isBreak c = false

instance (s : List Char) : Decidable (OneLine s) := List.decidableBAll _ s

theorem oneLine_append {s t : List Char} : OneLine (s ++ t) ↔ OneLine s ∧ OneLine t :=
  List.forall_mem_append

/-- A message that was dispatched. -/
structure Message where
  id : String
  event : String
  data : String
  deriving DecidableEq

namespace EventStream

/-! ### Reading -/

/-- The buffers of the reader: the last event ID, the event type, and the data with a line feed
after each line. -/
structure Buffers where
  id : List Char := []
  event : List Char := []
  data : List Char := []

/-- The reader: the line so far, whether a CR has just ended a line, and the buffers. -/
structure Reader where
  line : List Char := []
  cr : Bool := false
  buffers : Buffers := {}

/-- A field is processed; `retry` and the unknown names change no buffer. -/
def Buffers.field (b : Buffers) (name value : List Char) : Buffers :=
  if name = "event".toList then { b with event := value }
  else if name = "data".toList then { b with data := b.data ++ value ++ ['\n'] }
  else if name = "id".toList then if '\x00' ∈ value then b else { b with id := value }
  else b

/-- An empty line: the message is dispatched, unless there is no data. -/
def Buffers.dispatch (b : Buffers) : Buffers × Option Message :=
  if b.data = [] then ({ b with event := [] }, none)
  else
    ({ id := b.id }, some
      { id := String.ofList b.id
        event := if b.event = [] then "message" else String.ofList b.event
        -- the last of the line feeds
        data := String.ofList b.data.dropLast })

/-- The value of a field, without one space in front. -/
def fieldValue : List Char → List Char
  | ' ' :: value => value
  | value => value

/-- A line is processed. -/
def Buffers.line (b : Buffers) (line : List Char) : Buffers × Option Message :=
  if line = [] then b.dispatch
  else
    match cut ':' line with
    | some ([], _) => (b, none)
    | some (name, value) => (b.field name (fieldValue value), none)
    | none => (b.field line [], none)

/-- One character. -/
def Reader.step (r : Reader) (c : Char) : Reader × Option Message :=
  -- the second half of a CRLF pair
  if c = '\n' ∧ r.cr = true then ({ r with cr := false }, none)
  else if isBreak c then
    ({ cr := c = '\r', buffers := (r.buffers.line r.line).1 }, (r.buffers.line r.line).2)
  else ({ r with line := r.line ++ [c], cr := false }, none)

/-- The messages that are dispatched while the text is read. -/
def Reader.read (r : Reader) : List Char → List Message
  | [] => []
  | c :: s => (r.step c).2.toList ++ (r.step c).1.read s

/-- The reader after the text. -/
def Reader.after (r : Reader) (s : List Char) : Reader := s.foldl (fun r c => (r.step c).1) r

/-- The text without a byte order mark in front. -/
def dropMark : List Char → List Char
  | '\uFEFF' :: s => s
  | s => s

/-- The messages of a stream. -/
def decode (s : List Char) : List Message := ({} : Reader).read (dropMark s)

/-- The lines of a message. -/
def write (m : Message) : String :=
  "id: " ++ m.id ++ "\nevent: " ++ m.event ++ "\ndata: " ++ m.data ++ "\n\n"

section

variable {r : Reader} {b : Buffers} {s t line name value : List Char} {m : Message} {c : Char}

theorem Reader.read_append (r : Reader) (s t : List Char) :
    r.read (s ++ t) = r.read s ++ (r.after s).read t := by
  induction s generalizing r with
  | nil => rfl
  | cons c s ih =>
      show (r.step c).2.toList ++ (r.step c).1.read (s ++ t) = _
      rw [ih, ← List.append_assoc]
      rfl

/-- **A stream that breaks off** has an initial part of the messages. -/
theorem decode_append (s t : List Char) : decode s <+: decode (s ++ t) := by
  unfold decode
  by_cases hnil : s = []
  · subst hnil
    exact List.nil_prefix
  · have hmark : dropMark (s ++ t) = dropMark s ++ t := by
      obtain ⟨c, s, rfl⟩ := List.exists_cons_of_ne_nil hnil
      rw [List.cons_append]
      unfold dropMark
      split <;> simp_all
    rw [hmark, Reader.read_append]
    exact List.prefix_append _ _

/-! ### What is read -/

/-- A message with a name that can be read: it is not empty and has no line break. -/
def Named (m : Message) : Prop := m.event ≠ "" ∧ OneLine m.event.toList

/-- The reader is inside a line, and the event type is from one. -/
structure Reader.Plain (r : Reader) : Prop where
  line : OneLine r.line
  event : OneLine r.buffers.event

/-- A field puts nothing but its value into the event type. -/
theorem Buffers.field_event (hb : OneLine b.event) (hvalue : OneLine value) :
    OneLine (b.field name value).event := by
  unfold field
  split_ifs
  · exact hvalue
  · exact hb
  · exact hb
  · exact hb
  · exact hb

theorem oneLine_fieldValue (h : OneLine value) : OneLine (fieldValue value) := by
  unfold fieldValue
  split
  · exact (List.forall_mem_cons.1 h).2
  · exact h

/-- What is cut out of a line is on one line. -/
theorem oneLine_of_cut {sep : Char} {before after : List Char}
    (hcut : cut sep line = some (before, after)) (h : OneLine line) :
    OneLine before ∧ OneLine after := by
  rw [append_of_cut hcut, oneLine_append] at h
  exact ⟨h.1, (List.forall_mem_cons.1 h.2).2⟩

theorem Buffers.dispatch_named (hb : OneLine b.event) :
    OneLine b.dispatch.1.event ∧ ∀ m ∈ b.dispatch.2, Named m := by
  unfold dispatch
  split_ifs with hdata hevent
  · exact ⟨by simp [OneLine], by simp⟩
  · refine ⟨by simp [OneLine], fun m hm => ?_⟩
    obtain rfl := Option.some.inj hm
    show "message" ≠ "" ∧ OneLine "message".toList
    exact ⟨by decide, by decide⟩
  · refine ⟨by simp [OneLine], fun m hm => ?_⟩
    obtain rfl := Option.some.inj hm
    refine ⟨fun hempty => hevent ?_, ?_⟩
    · simpa using congrArg String.toList hempty
    · simpa using hb

/-- A line of a stream dispatches named messages only. -/
theorem Buffers.line_named (hline : OneLine line) (hb : OneLine b.event) :
    OneLine (b.line line).1.event ∧ ∀ m ∈ (b.line line).2, Named m := by
  unfold Buffers.line
  split_ifs
  · exact b.dispatch_named hb
  · split
    · exact ⟨hb, by simp⟩
    · next name value _ hcut =>
        exact ⟨field_event hb (oneLine_fieldValue (oneLine_of_cut hcut hline).2), by simp⟩
    · exact ⟨field_event hb (by simp [OneLine]), by simp⟩

theorem Reader.Plain.step (h : r.Plain) (c : Char) :
    (r.step c).1.Plain ∧ ∀ m ∈ (r.step c).2, Named m := by
  unfold Reader.step
  split_ifs with hcrlf hbreak
  · exact ⟨⟨h.line, h.event⟩, by simp⟩
  · obtain ⟨hevent, hnamed⟩ := Buffers.line_named h.line h.event
    exact ⟨⟨by simp [OneLine], hevent⟩, hnamed⟩
  · refine ⟨⟨?_, h.event⟩, by simp⟩
    rw [oneLine_append]
    exact ⟨h.line, by simpa [OneLine] using hbreak⟩

/-- **Every message that is read is named.** -/
theorem Named.of_mem_read (h : r.Plain) (hm : m ∈ r.read s) : Named m := by
  induction s generalizing r with
  | nil => cases hm
  | cons c s ih =>
      obtain ⟨hplain, hnamed⟩ := h.step c
      rw [Reader.read, List.mem_append, Option.mem_toList] at hm
      exact hm.elim (hnamed m) (ih hplain)

theorem Named.of_mem_decode (hm : m ∈ decode s) : Named m :=
  Named.of_mem_read ⟨by simp [OneLine], by simp [OneLine]⟩ hm

/-! ### Reading what was written -/

/-- A line is read up to its line feed. -/
theorem Reader.read_line (line : List Char) (h : OneLine s) :
    ({ line := line, buffers := b } : Reader).read (s ++ '\n' :: t) =
      (b.line (line ++ s)).2.toList ++
        ({ buffers := (b.line (line ++ s)).1 } : Reader).read t := by
  induction s generalizing line with
  | nil => simp [Reader.read, Reader.step, isBreak]
  | cons c s ih =>
      obtain ⟨hc, hs⟩ := List.forall_mem_cons.1 h
      have hstep : ({ line := line, buffers := b } : Reader).step c =
          ({ line := line ++ [c], buffers := b }, none) := by
        simp [Reader.step, hc]
      rw [List.cons_append, Reader.read, hstep]
      show ({ line := line ++ [c], buffers := b } : Reader).read (s ++ '\n' :: t) = _
      rw [ih _ hs, List.append_assoc, List.singleton_append]

/-- A line with a name, a colon and a space is a field. -/
theorem Buffers.line_field (hname : ':' ∉ name) (hne : name ≠ []) :
    b.line (name ++ ':' :: ' ' :: value) = (b.field name value, none) := by
  unfold Buffers.line
  rw [if_neg (by simp), cut_append_cons hname]
  split
  · next heq => exact absurd (Prod.mk.inj (Option.some.inj heq)).1 hne
  · next heq =>
      obtain ⟨rfl, rfl⟩ := Prod.mk.inj (Option.some.inj heq)
      rfl
  · next heq => cases heq

/-- The line of a field is read. -/
theorem Reader.read_field (hname : ':' ∉ name) (hne : name ≠ [])
    (h : OneLine (name ++ ':' :: ' ' :: value)) :
    ({ buffers := b } : Reader).read (name ++ ':' :: ' ' :: (value ++ '\n' :: t)) =
      ({ buffers := b.field name value } : Reader).read t := by
  have hread := Reader.read_line (b := b) (t := t) [] h
  rw [List.append_assoc, List.cons_append, List.cons_append] at hread
  rw [hread, List.nil_append, Buffers.line_field hname hne]
  rfl

/-- The other fields of a message can be written: they are on one line each. -/
structure Writable (m : Message) : Prop where
  id : OneLine m.id.toList
  id_null : '\x00' ∉ m.id.toList
  data : OneLine m.data.toList

theorem toList_write (m : Message) :
    (write m).toList = "id".toList ++ ':' :: ' ' :: (m.id.toList ++ '\n' ::
      ("event".toList ++ ':' :: ' ' :: (m.event.toList ++ '\n' ::
        ("data".toList ++ ':' :: ' ' :: (m.data.toList ++ '\n' :: ['\n']))))) := by
  simp [write, String.toList_append]

/-- The fields of a message put it into the buffers. -/
theorem Buffers.field_write (hm : Writable m) (hb : b.data = []) :
    ((b.field "id".toList m.id.toList).field "event".toList m.event.toList).field "data".toList
        m.data.toList =
      { id := m.id.toList, event := m.event.toList, data := m.data.toList ++ ['\n'] } := by
  have hid : b.field "id".toList m.id.toList = { b with id := m.id.toList } := by
    unfold field
    rw [if_neg (by decide), if_neg (by decide), if_pos rfl, if_neg hm.id_null]
  have hevent (b : Buffers) (value : List Char) :
      b.field "event".toList value = { b with event := value } := if_pos rfl
  have hdata (b : Buffers) (value : List Char) :
      b.field "data".toList value = { b with data := b.data ++ value ++ ['\n'] } := by
    unfold field
    rw [if_neg (by decide), if_pos rfl]
  rw [hid, hevent, hdata, hb, List.nil_append]

/-- A full buffer is dispatched as the message. -/
theorem Buffers.dispatch_write (hnamed : Named m) :
    ({ id := m.id.toList, event := m.event.toList, data := m.data.toList ++ ['\n'] } :
      Buffers).dispatch = ({ id := m.id.toList }, some m) := by
  have hevent : m.event.toList ≠ [] := by
    intro hempty
    exact hnamed.1 (String.toList_inj.1 hempty)
  unfold dispatch
  rw [if_neg (by simp), if_neg hevent, List.dropLast_concat, String.ofList_toList,
    String.ofList_toList, String.ofList_toList]

/-- An empty line dispatches the message. -/
theorem Reader.read_dispatch (hnamed : Named m) :
    ({ buffers :=
        { id := m.id.toList, event := m.event.toList, data := m.data.toList ++ ['\n'] } } :
      Reader).read ('\n' :: t) = m :: ({ buffers := { id := m.id.toList } } : Reader).read t := by
  have hempty := Reader.read_line (s := []) (t := t)
    (b := { id := m.id.toList, event := m.event.toList, data := m.data.toList ++ ['\n'] }) []
    (by simp [OneLine])
  rw [List.nil_append] at hempty
  rw [hempty, List.nil_append, Buffers.line, if_pos rfl, Buffers.dispatch_write hnamed]
  rfl

theorem oneLine_field (hname : OneLine name) (hvalue : OneLine value) :
    OneLine (name ++ ':' :: ' ' :: value) :=
  oneLine_append.2 ⟨hname, List.forall_mem_cons.2 ⟨rfl, List.forall_mem_cons.2 ⟨rfl, hvalue⟩⟩⟩

/-- **A message that was written is read**, whatever its reader has read before. -/
theorem Reader.read_write (hm : Writable m) (hnamed : Named m) (hb : b.data = []) :
    ({ buffers := b } : Reader).read ((write m).toList ++ t) =
      m :: ({ buffers := { id := m.id.toList } } : Reader).read t := by
  rw [toList_write]
  simp only [List.append_assoc, List.cons_append, List.nil_append]
  rw [Reader.read_field (by decide) (by decide) (oneLine_field (by decide) hm.id),
    Reader.read_field (by decide) (by decide) (oneLine_field (by decide) hnamed.2),
    Reader.read_field (by decide) (by decide) (oneLine_field (by decide) hm.data),
    Buffers.field_write hm hb, Reader.read_dispatch hnamed]

/-- A reader that has just dispatched reads messages. -/
theorem Reader.read_writes {ms : List Message} (hms : ∀ m ∈ ms, Writable m ∧ Named m)
    (hb : b.data = []) :
    ({ buffers := b } : Reader).read (ms.flatMap fun m => (write m).toList) = ms := by
  induction ms generalizing b with
  | nil => rfl
  | cons m ms ih =>
      obtain ⟨⟨hwritable, hnamed⟩, hrest⟩ := List.forall_mem_cons.1 hms
      rw [List.flatMap_cons, Reader.read_write hwritable hnamed hb, ih hrest rfl]

/-- A stream of messages has no byte order mark in front. -/
theorem dropMark_writes (ms : List Message) :
    dropMark (ms.flatMap fun m => (write m).toList) = ms.flatMap fun m => (write m).toList := by
  cases ms with
  | nil => rfl
  | cons m ms =>
      rw [List.flatMap_cons, toList_write]
      rfl

/-- **Which messages are read back**: those whose names are not empty and have no line break. -/
theorem decode_write_iff {ms : List Message} (hms : ∀ m ∈ ms, Writable m) :
    decode (ms.flatMap fun m => (write m).toList) = ms ↔ ∀ m ∈ ms, Named m := by
  constructor
  · intro hdecode m hm
    rw [← hdecode] at hm
    exact Named.of_mem_decode hm
  · intro hnamed
    unfold decode
    rw [dropMark_writes]
    exact Reader.read_writes (fun m hm => ⟨hms m hm, hnamed m hm⟩) rfl

end

end EventStream
end Encoding
end Agentd

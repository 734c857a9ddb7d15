/-
# The event stream of a session

`handleSessionEvents` (`api/server.go`) answers with a stream of server-sent events.  For every
event that it receives from the broker it writes the sequence number, the type and the JSON of the
event as the three fields of a message, with `fmt.Fprintf`, until the request ends, the channel is
closed or a write fails.

The JSON has no line breaks, and neither has a number.  The type is what the agent sent
(`Manager.Prompt` copies it), and nothing is escaped: a type with a line break goes on in lines of
its own, and what the client reads is up to the agent.  `forgedType_readAsTwo` is one event that
is read as two.  `sessionEvents_readBack_iff` says that the types are the only cause.
-/

import Agentd.Control.Types
import Agentd.Encoding.EventStream

namespace Agentd
namespace Api

open Control Encoding EventStream

/-- What the loop of `handleSessionEvents` meets: the end of the request, the end of the channel,
or an event; with an event, how much of it was written if the write failed. -/
inductive StreamSignal
  | done
  | closed
  | event (event : Event) (failure : Option ℕ)

/-- The event is received and written. -/
def StreamSignal.written (event : Event) : StreamSignal := .event event none

section

variable (marshal : Event → Option String)

/-- `raw, _ := json.Marshal(event)`: nothing, where there is an error. -/
def rawEvent (event : Event) : String := (marshal event).getD ""

/-- What `fmt.Fprintf` writes for an event. -/
def eventFrame (event : Event) : String :=
  "id: " ++ toString event.sequence ++ "\nevent: " ++ event.type ++ "\ndata: " ++
    rawEvent marshal event ++ "\n\n"

/-- The loop of `handleSessionEvents`: what it writes. -/
def streamEvents : List StreamSignal → List Char
  | [] => []
  | .done :: _ => []
  | .closed :: _ => []
  | .event event none :: rest => (eventFrame marshal event).toList ++ streamEvents rest
  | .event event (some n) :: _ => (eventFrame marshal event).toList.take n

/-- `handleSessionEvents`. -/
def handleSessionEvents (flusher : Bool) (signals : List StreamSignal) : Except Err (List Char) :=
  if flusher then .ok (streamEvents marshal signals)
  else .error (.other "streaming unsupported")

/-- What the client should read for an event: there is no JSON of an event that cannot be
marshalled. -/
def eventMessage (event : Event) : Option Message :=
  (marshal event).map fun json =>
    { id := toString event.sequence, event := event.type, data := json }

/-- The client reads the events, and nothing else. -/
def ReadBack (events : List Event) : Prop :=
  ∃ body, handleSessionEvents marshal true (events.map StreamSignal.written) = .ok body ∧
    events.map (eventMessage marshal) = (decode body).map some

/-- The event has a type on one line, and it can be marshalled. -/
structure Streamable (event : Event) : Prop where
  type_ne : event.type ≠ ""
  type_line : OneLine event.type.toList
  marshals : ∃ json, marshal event = some json

end

/-! ### The frame of an event -/

theorem notMem_toString {c : Char} (hminus : c ≠ '-') (hdigit : c.isDigit = false) (n : ℤ) :
    c ∉ (toString n).toList := by
  intro hmem
  obtain hc | hc := isDigit_of_mem_toString hmem
  · exact hminus hc
  · rw [hdigit] at hc
    cases hc

theorem oneLine_toString (n : ℤ) : OneLine (toString n).toList := by
  intro c hc
  rw [Bool.eq_false_iff]
  intro hbreak
  obtain rfl | rfl : c = '\n' ∨ c = '\r' := by simpa [isBreak] using hbreak
  · exact notMem_toString (by decide) (by decide) n hc
  · exact notMem_toString (by decide) (by decide) n hc

section

variable {marshal : Event → Option String} {event : Event} {events : List Event}

/-- The message that is written for an event. -/
def frameMessage (marshal : Event → Option String) (event : Event) : Message :=
  { id := toString event.sequence, event := event.type, data := rawEvent marshal event }

theorem frameMessage_writable
    (hmarshal : ∀ event json, marshal event = some json → OneLine json.toList) (event : Event) :
    Writable (frameMessage marshal event) where
  id := oneLine_toString event.sequence.toInt
  id_null := notMem_toString (by decide) (by decide) event.sequence.toInt
  data := by
    show OneLine (rawEvent marshal event).toList
    unfold rawEvent
    cases hjson : marshal event with
    | none => decide
    | some json => exact hmarshal event json hjson

theorem eventFrame_eq_write (event : Event) :
    eventFrame marshal event = write (frameMessage marshal event) := rfl

theorem streamEvents_written (events : List Event) :
    streamEvents marshal (events.map StreamSignal.written) =
      (events.map (frameMessage marshal)).flatMap fun m => (write m).toList := by
  induction events with
  | nil => rfl
  | cons event events ih =>
      show (eventFrame marshal event).toList ++ streamEvents marshal _ = _
      rw [eventFrame_eq_write, ih, List.map_cons, List.flatMap_cons]

/-- Where the event can be marshalled, the message that is written is the one to be read. -/
theorem eventMessage_eq_some {m : Message} :
    eventMessage marshal event = some m ↔
      (∃ json, marshal event = some json) ∧ frameMessage marshal event = m := by
  unfold eventMessage frameMessage rawEvent
  cases marshal event with
  | none => simp
  | some json => simp

theorem map_eventMessage_eq {ms : List Message} :
    events.map (eventMessage marshal) = ms.map some ↔
      (∀ event ∈ events, ∃ json, marshal event = some json) ∧
        events.map (frameMessage marshal) = ms := by
  induction events generalizing ms with
  | nil =>
      cases ms with
      | nil => simp
      | cons m ms => simp
  | cons event events ih =>
      cases ms with
      | nil => simp
      | cons m ms =>
          rw [List.map_cons, List.map_cons, List.map_cons, List.cons.injEq, List.cons.injEq,
            eventMessage_eq_some, ih, List.forall_mem_cons]
          tauto

/-- The frames are read as the messages that were written if the types can be read. -/
theorem decode_streamEvents_written
    (hmarshal : ∀ event json, marshal event = some json → OneLine json.toList)
    (events : List Event) :
    decode (streamEvents marshal (events.map StreamSignal.written)) =
        events.map (frameMessage marshal) ↔
      ∀ event ∈ events, event.type ≠ "" ∧ OneLine event.type.toList := by
  have hwritable : ∀ m ∈ events.map (frameMessage marshal), Writable m := by
    rw [List.forall_mem_map]
    exact fun event _ => frameMessage_writable hmarshal event
  rw [streamEvents_written, decode_write_iff hwritable, List.forall_mem_map]
  exact Iff.rfl

/-- **Which events the client reads back**: for every sequence of events, exactly if all of them
can be marshalled and have types that are not empty and have no line break. -/
theorem sessionEvents_readBack_iff
    (hmarshal : ∀ event json, marshal event = some json → OneLine json.toList)
    (events : List Event) :
    ReadBack marshal events ↔ ∀ event ∈ events, Streamable marshal event := by
  have hread : ReadBack marshal events ↔
      (∀ event ∈ events, ∃ json, marshal event = some json) ∧
        ∀ event ∈ events, event.type ≠ "" ∧ OneLine event.type.toList := by
    rw [← decode_streamEvents_written hmarshal, eq_comm (b := events.map (frameMessage marshal)),
      ← map_eventMessage_eq]
    exact ⟨fun ⟨_, rfl, h⟩ => h, fun h => ⟨_, rfl, h⟩⟩
  rw [hread]
  constructor
  · rintro ⟨hjson, htype⟩ event hevent
    exact ⟨(htype event hevent).1, (htype event hevent).2, hjson event hevent⟩
  · intro h
    exact ⟨fun event hevent => (h event hevent).marshals, fun event hevent =>
      ⟨(h event hevent).type_ne, (h event hevent).type_line⟩⟩

end

/-- An event of an agent whose type goes on after a line break. -/
def forgedEvent : Event where
  sessionID := "sess_1"
  runID := "run_1"
  type := "chunk\ndata: forged\n\nevent: completed"
  sequence := 7

/-- What the client reads for it: an event with data from the type, and then the end of the run. -/
theorem decode_forgedEvent {marshal : Event → Option String} {json : String}
    (hjson : marshal forgedEvent = some json) (hline : OneLine json.toList) :
    decode (eventFrame marshal forgedEvent).toList =
      [{ id := "7", event := "chunk", data := "forged" },
        { id := "7", event := "completed", data := json }] := by
  have hframe : (eventFrame marshal forgedEvent).toList =
      (write { id := "7", event := "chunk", data := "forged" }).toList ++
        ("event".toList ++ ':' :: ' ' :: ("completed".toList ++ '\n' ::
          ("data".toList ++ ':' :: ' ' :: (json.toList ++ '\n' :: ['\n'])))) := by
    have hraw : rawEvent marshal forgedEvent = json := by
      rw [rawEvent, hjson]
      rfl
    have hsequence : toString forgedEvent.sequence = "7" := by decide
    rw [eventFrame, hraw, hsequence]
    simp [forgedEvent, write, String.toList_append]
  have hchunk : Writable { id := "7", event := "chunk", data := "forged" } :=
    ⟨by decide, by decide, by decide⟩
  have hread : ({} : Reader).read (eventFrame marshal forgedEvent).toList =
      { id := "7", event := "chunk", data := "forged" } ::
        ({ buffers :=
            { id := "7".toList, event := "completed".toList, data := json.toList ++ ['\n'] } } :
          Reader).read ['\n'] := by
    rw [hframe, Reader.read_write hchunk ⟨by decide, by decide⟩ rfl,
      Reader.read_field (by decide) (by decide) (oneLine_field (by decide) (by decide)),
      Reader.read_field (by decide) (by decide) (oneLine_field (by decide) hline)]
    rfl
  have hmark : dropMark (eventFrame marshal forgedEvent).toList =
      (eventFrame marshal forgedEvent).toList := by
    rw [hframe, toList_write]
    rfl
  have hcompleted : Named { id := "7", event := "completed", data := json } := by
    show "completed" ≠ "" ∧ OneLine "completed".toList
    exact ⟨by decide, by decide⟩
  rw [decode, hmark, hread, Reader.read_dispatch hcompleted, Reader.read]

/-- **One event is read as two**, and the second one says that the run is completed, whatever the
JSON of the event is. -/
theorem forgedType_readAsTwo :
    forgedEvent.type ≠ "" ∧
      ∀ (marshal : Event → Option String) (json : String), marshal forgedEvent = some json →
        OneLine json.toList →
          decode (eventFrame marshal forgedEvent).toList =
              [{ id := "7", event := "chunk", data := "forged" },
                { id := "7", event := "completed", data := json }] ∧
            ¬ReadBack marshal [forgedEvent] := by
  refine ⟨by decide, fun marshal json hjson hline => ⟨decode_forgedEvent hjson hline, ?_⟩⟩
  rintro ⟨body, hbody, hread⟩
  have hframe : (eventFrame marshal forgedEvent).toList ++ [] = body := Except.ok.inj hbody
  rw [List.append_nil] at hframe
  rw [← hframe, decode_forgedEvent hjson hline] at hread
  exact absurd (congrArg List.length hread) (by simp)

/-- The JSON of the two events of a run with one chunk. -/
def runJSON (event : Event) : Option String :=
  if event.type = "chunk" then
    some ("\x7b\"session_id\":\"sess_1\",\"type\":\"chunk\",\"sequence\":1," ++
      "\"time\":\"1970-01-01T00:00:00Z\"\x7d")
  else
    some ("\x7b\"session_id\":\"sess_1\",\"type\":\"completed\",\"sequence\":2," ++
      "\"time\":\"1970-01-01T00:00:00Z\"\x7d")

theorem runEvents_readBack :
    ReadBack runJSON
      [{ sessionID := "sess_1", type := "chunk", sequence := 1 },
        { sessionID := "sess_1", type := "completed", sequence := 2 }] := by
  have hmarshal : ∀ event json, runJSON event = some json → OneLine json.toList := by
    intro event json hjson
    unfold runJSON at hjson
    split_ifs at hjson
    · obtain rfl := Option.some.inj hjson
      rw [String.toList_append, oneLine_append]
      exact ⟨by decide +kernel, by decide +kernel⟩
    · obtain rfl := Option.some.inj hjson
      rw [String.toList_append, oneLine_append]
      exact ⟨by decide +kernel, by decide +kernel⟩
  refine (sessionEvents_readBack_iff hmarshal _).2 ?_
  rw [List.forall_mem_cons, List.forall_mem_singleton]
  exact ⟨⟨by decide, by decide, _, rfl⟩, ⟨by decide, by decide, _, rfl⟩⟩

/-! ### A stream that ends early -/

/-- The events that the loop has received, the one whose write failed included. -/
def receivedEvents : List StreamSignal → List Event
  | [] => []
  | .done :: _ => []
  | .closed :: _ => []
  | .event event none :: rest => event :: receivedEvents rest
  | .event event (some _) :: _ => [event]

section

variable {marshal : Event → Option String} {signals : List StreamSignal}

/-- However the loop ends, it has written an initial part of its frames. -/
theorem streamEvents_prefix (signals : List StreamSignal) :
    streamEvents marshal signals <+:
      streamEvents marshal ((receivedEvents signals).map StreamSignal.written) := by
  induction signals with
  | nil => exact List.prefix_refl _
  | cons signal rest ih =>
      cases signal with
      | done => exact List.prefix_refl _
      | closed => exact List.prefix_refl _
      | event event failure =>
          cases failure with
          | none => exact (List.prefix_append_right_inj _).2 ih
          | some n => exact (List.take_prefix n _).trans (List.prefix_append _ _)

/-- **A stream that ends early**: whether the request ends, the channel is closed or a write fails
in the middle of a frame, the client has read the first of the events, and nothing else. -/
theorem decode_streamEvents_prefix
    (hmarshal : ∀ event json, marshal event = some json → OneLine json.toList)
    (h : ∀ event ∈ receivedEvents signals, Streamable marshal event) :
    decode (streamEvents marshal signals) <+:
      (receivedEvents signals).map (frameMessage marshal) := by
  have hinitial : streamEvents marshal signals <+: _ := streamEvents_prefix signals
  obtain ⟨rest, hrest⟩ := hinitial
  have hall := (decode_streamEvents_written hmarshal (receivedEvents signals)).2
    fun event hevent => ⟨(h event hevent).type_ne, (h event hevent).type_line⟩
  rw [← hall, ← hrest]
  exact decode_append _ _

end

end Api
end Agentd

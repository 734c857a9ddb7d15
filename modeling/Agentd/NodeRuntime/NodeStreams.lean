/-
# What a node client makes of the stream of a prompt

`Activities.Nodes` has a `Runner` for a node in the same process and a `RemoteNodeClient` for
a remote one.  `Client` is either of them.  Both read a stream item by item: the event goes to
the callback, and `Client.after` says how the loop goes on.  `Client.outcome` is what the loop
returns when the callback never fails.

`NodeStream` are the streams that a client can read.  The direct client reads what has
arrived of the items that the supervisor sent.  The remote one reads what has arrived of the
items of `NodeServer.Prompt`: one for each event, and a closing one with the run that
`Runner.Prompt` returned on the node.  Either client returns the run of the last item that
the runner has received, whether that item was final or not (`NodeStream.outcome_eq_ok`).
-/

import Agentd.NodeRuntime.RemotePrompt
import Agentd.Supervisor.ItemStreams

namespace Agentd
namespace NodeRuntime

open Control Concurrency Supervisor

/-- A node client of `Activities.Nodes`. -/
inductive Client
  | direct
  | remote

namespace Client

variable {σ : Type*}

/-- How the loop of a client goes on after an item whose event is published. -/
def after (kept : Run) (item : PromptStreamItem) : Client → Iteration
  | .direct => Runner.afterItem item
  | .remote =>
      if item.error ≠ "" ∧ item.final ∧ item.run.id = "" then .done (.error (.other item.error))
      else
        let final := if item.run.id ≠ "" then item.run else kept
        if item.final then .done (.ok final) else .next final

/-- The body of the loop of a client. -/
def onItem (publish : Publish σ) (s : σ) (kept : Run) (item : PromptStreamItem) :
    Client → σ × Iteration
  | .direct => Runner.onItem publish s kept item
  | .remote => RemoteNodeClient.onItem publish s kept item

/-- `Prompt` of a client; an error in place of the stream is one of the call that opens it. -/
def prompt (publish : Publish σ) (opened : Except Err (List PromptStreamItem × Err)) (s : σ)
    (client : Client) : σ × Except Err Run :=
  match opened with
  | .error err => (s, .error err)
  | .ok (items, err) => promptLoop (client.onItem publish) items err {} s

/-- What the loop returns when the callback never fails. -/
def outcome (client : Client) : List PromptStreamItem → Err → Run → Except Err Run
  | [], err, kept => onBreak kept err
  | item :: items, err, kept =>
      match client.after kept item with
      | .done res => res
      | .next kept' => client.outcome items err kept'

end Client

/-- The callback takes the events of all the items. -/
def Publish.accepts {σ : Type*} (publish : Publish σ) : σ → List PromptStreamItem → Bool
  | _, [] => true
  | s, item :: items =>
      match publish.event s item.event with
      | (_, some _) => false
      | (s', none) => publish.accepts s' items

/-- The items that `NodeServer.Prompt` sends for the events of these. -/
def NodeServer.events (items : List PromptStreamItem) : List PromptStreamItem :=
  (items.filter fun item => item.event.type ≠ "").map fun item => { event := item.event }

/-- Only the last item may be final. -/
def FinalLast (items : List PromptStreamItem) : Prop :=
  items.Pairwise fun item _ => item.final = false

section

variable {σ : Type*} {publish : Publish σ} {b : PromptStart} {items : List PromptStreamItem}
  {err : Err}

theorem Client.onItem_of_error {s s' : σ} {kept : Run} {item : PromptStreamItem} {e : Err}
    (client : Client) (h : publish.event s item.event = (s', some e)) :
    client.onItem publish s kept item = (s', .done (.error e)) := by
  cases client
  · simp only [onItem, Runner.onItem, h]
  · simp only [onItem, RemoteNodeClient.onItem, h]

theorem Client.onItem_of_ok {s s' : σ} {kept : Run} {item : PromptStreamItem} (client : Client)
    (h : publish.event s item.event = (s', none)) :
    client.onItem publish s kept item = (s', client.after kept item) := by
  cases client
  · simp only [onItem, Runner.onItem, h, after]
  · simp only [onItem, RemoteNodeClient.onItem, h, after]
    split_ifs <;> rfl

theorem Client.after_of_not_final (client : Client) (kept : Run) {item : PromptStreamItem}
    (h : item.final = false) : ∃ kept', client.after kept item = .next kept' := by
  cases client <;> simp [after, Runner.afterItem, h]

theorem FinalLast.nil_of_final {item : PromptStreamItem} (h : FinalLast (item :: items))
    (hfinal : item.final = true) : items = [] := by
  refine List.eq_nil_iff_forall_not_mem.2 fun y hy => ?_
  have hgoes : item.final = false := (List.pairwise_cons.1 h).1 y hy
  rw [hfinal] at hgoes
  cases hgoes

theorem FinalLast.tail {item : PromptStreamItem} (h : FinalLast (item :: items)) :
    FinalLast items :=
  (List.pairwise_cons.1 h).2

theorem Client.final_of_done {client : Client} {kept : Run} {item : PromptStreamItem}
    {res : Except Err Run} (h : client.after kept item = .done res) : item.final = true := by
  rcases Bool.eq_false_or_eq_true item.final with hfinal | hfinal
  · exact hfinal
  · obtain ⟨kept', hnext⟩ := client.after_of_not_final kept hfinal
    cases h.symm.trans hnext

/-- **The loop of a client** returns a run when the callback takes every event, and then it
returns its outcome. -/
theorem Client.loop_eq_ok (client : Client) (hlast : FinalLast items) {kept run : Run} {s : σ} :
    (promptLoop (client.onItem publish) items err kept s).2 = .ok run ↔
      publish.accepts s items = true ∧ client.outcome items err kept = .ok run := by
  induction items generalizing kept s with
  | nil => simp [promptLoop, Publish.accepts, outcome]
  | cons item items ih =>
      rw [promptLoop, Publish.accepts, outcome]
      rcases hev : publish.event s item.event with ⟨s', _ | e⟩
      · rw [client.onItem_of_ok hev]
        cases hafter : client.after kept item with
        | next kept' => exact ih hlast.tail
        | done res =>
            have hnil := hlast.nil_of_final (Client.final_of_done hafter)
            simp [hnil, Publish.accepts]
      · simp [client.onItem_of_error hev]

theorem FinalLast.of_streams (h : Streams b items) : FinalLast items := by
  have hopen {l : List PromptStreamItem} (h : Open l) : FinalLast l :=
    List.pairwise_of_forall_mem_list fun x hx _ _ => h x hx
  cases h with
  | refused item => exact List.pairwise_singleton ..
  | relayed _ _ h => exact hopen h
  | ended items last _ h =>
      refine List.pairwise_append.2 ⟨hopen h, List.pairwise_singleton .., ?_⟩
      exact fun x hx _ _ => h x hx

/-- The direct client returns the run of the last item. -/
theorem Client.direct_outcome {kept run : Run} (hlast : FinalLast items)
    (hid : ∀ item ∈ items, item.run.id ≠ "") :
    Client.direct.outcome items err kept = .ok run ↔
      (items = [] ∧ kept.id ≠ "" ∧ kept = run) ∨
        ∃ item, items.getLast? = some item ∧ item.run = run := by
  induction items generalizing kept with
  | nil =>
      unfold outcome onBreak
      split_ifs with h <;> simp [h]
  | cons item items ih =>
      have hids : ∀ item ∈ items, item.run.id ≠ "" :=
        fun item' hmem => hid item' (List.mem_cons_of_mem _ hmem)
      rw [outcome, after, Runner.afterItem]
      split_ifs with h
      · simp [hlast.nil_of_final h]
      · have hrun : item.run.id ≠ "" := hid item (List.mem_cons_self ..)
        simp only [ih hlast.tail hids]
        cases items with
        | nil => simp [hrun]
        | cons y ys => simp

/-- The server sends an item for every event. -/
theorem NodeServer.loop_eq (hlast : FinalLast items) {kept : Run}
    {wire : List PromptStreamItem} :
    promptLoop (Runner.onItem (NodeServer.send none)) items err kept wire =
      (wire ++ NodeServer.events items, Client.direct.outcome items err kept) := by
  induction items generalizing kept wire with
  | nil => simp [promptLoop, NodeServer.events, Client.outcome]
  | cons item items ih =>
      have hitem : Runner.onItem (NodeServer.send none) wire kept item =
          (wire ++ NodeServer.events [item], Runner.afterItem item) := by
        by_cases htype : item.event.type = ""
        · rw [Runner.onItem_of_no_type _ _ _ htype]
          simp [NodeServer.events, htype]
        · simp [Runner.onItem, Publish.event, NodeServer.send, NodeServer.events, htype]
      have hevents : NodeServer.events (item :: items) =
          NodeServer.events [item] ++ NodeServer.events items := by
        rw [NodeServer.events, ← List.singleton_append, List.filter_append, List.map_append]
        rfl
      rw [promptLoop, hitem, Client.outcome, Client.after, hevents]
      unfold Runner.afterItem
      split_ifs with h
      · simp [hlast.nil_of_final h, NodeServer.events]
      · simp [ih hlast.tail]

/-- The stream that the client reads when the runner has received `items`. -/
theorem NodeServer.prompt_eq (hs : Streams b items) (err : Err) :
    NodeServer.prompt (.ok (items, err)) =
      match items.getLast? with
      | none => ([], err)
      | some last => (NodeServer.events items ++ [{ run := last.run, final := true }], eof) := by
  have hids : ∀ item ∈ items, item.run.id ≠ "" := fun item hmem => by
    rw [hs.id hmem]
    exact b.runID_ne_empty
  have hlast := FinalLast.of_streams hs
  rw [NodeServer.prompt, Runner.prompt, NodeServer.loop_eq hlast]
  cases hget : items.getLast? with
  | none =>
      rw [List.getLast?_eq_none_iff.1 hget]
      rfl
  | some last =>
      have hok : Client.direct.outcome items err {} = .ok last.run :=
        (Client.direct_outcome hlast hids).2 (Or.inr ⟨last, hget, rfl⟩)
      rw [hok]
      rfl

/-- The remote client keeps no run before the closing item. -/
theorem Client.remote_outcome_events {wire : List PromptStreamItem} {run : Run}
    (hwire : wire <+: NodeServer.events items) :
    Client.remote.outcome wire err {} ≠ .ok run := by
  have hplain : ∀ item ∈ wire, item.run = {} ∧ item.final = false := by
    intro item hmem
    obtain ⟨x, -, rfl⟩ := List.mem_map.1 (hwire.subset hmem)
    exact ⟨rfl, rfl⟩
  clear hwire
  induction wire with
  | nil => intro h; cases h
  | cons item wire ih =>
      obtain ⟨hrun, hfinal⟩ := hplain item (List.mem_cons_self ..)
      have hafter : Client.remote.after {} item = .next {} := by simp [after, hrun, hfinal]
      rw [outcome, hafter]
      exact ih fun item' hmem => hplain item' (List.mem_cons_of_mem _ hmem)

theorem Client.remote_outcome_closing {run : Run} (hid : run.id ≠ "") :
    Client.remote.outcome (NodeServer.events items ++ [{ run, final := true }]) err {} =
      .ok run := by
  unfold NodeServer.events
  induction items.filter fun item => item.event.type ≠ "" with
  | nil => simp [outcome, after, hid]
  | cons item items ih => exact ih

end

/-- The streams that a client can read when the supervisor has begun with `b` and the runner has
received `items` of what it sent: the call that opens the stream can fail, and the stream can
break at any item. -/
inductive NodeStream (b : PromptStart) (items : List PromptStreamItem) :
    Client → Except Err (List PromptStreamItem × Err) → Prop
  | failed (client : Client) (err : Err) : NodeStream b items client (.error err)
  | direct (hs : Arrives b items) (err : Err) : NodeStream b items .direct (.ok (items, err))
  | remote (hs : Arrives b items) (err : Err) (wire : List PromptStreamItem)
      (hwire : wire <+: (NodeServer.prompt (.ok (items, err))).1) (err' : Err) :
      NodeStream b items .remote (.ok (wire, err'))

section

variable {σ : Type*} {publish : Publish σ} {b : PromptStart} {client : Client}
  {items stream : List PromptStreamItem} {err : Err}

/-- **A client returns the run of the last item that the runner has received.** -/
theorem NodeStream.outcome_eq_ok {run : Run} (h : NodeStream b items client (.ok (stream, err)))
    (hrun : client.outcome stream err {} = .ok run) :
    ∃ last, items.getLast? = some last ∧ last.run = run := by
  cases h with
  | direct harr =>
      have hs := harr.streams
      have hids : ∀ item ∈ items, item.run.id ≠ "" := fun item hmem => by
        rw [hs.id hmem]
        exact b.runID_ne_empty
      rcases (Client.direct_outcome (FinalLast.of_streams hs) hids).1 hrun with ⟨-, hid, -⟩ | hlast
      · exact absurd rfl hid
      · exact hlast
  | remote harr err₀ _ hwire =>
      have hs := harr.streams
      rw [NodeServer.prompt_eq hs] at hwire
      cases hget : items.getLast? with
      | none =>
          rw [hget] at hwire
          obtain rfl := List.prefix_nil.1 hwire
          cases hrun
      | some last =>
          rw [hget] at hwire
          rcases List.prefix_concat_iff.1 hwire with rfl | hwire
          · have hid : last.run.id ≠ "" := by
              rw [hs.id (List.mem_of_getLast? hget)]
              exact b.runID_ne_empty
            rw [Client.remote_outcome_closing hid] at hrun
            exact ⟨last, rfl, Except.ok.inj hrun⟩
          · exact (Client.remote_outcome_events hwire hrun).elim

/-- The server sends on what it receives, so only the last item of its stream is final. -/
theorem NodeServer.finalLast (hs : Streams b items) (err : Err) :
    FinalLast (NodeServer.prompt (.ok (items, err))).1 := by
  rw [NodeServer.prompt_eq hs]
  cases items.getLast? with
  | none => exact List.Pairwise.nil
  | some last =>
      have hevents : ∀ item ∈ NodeServer.events items, item.final = false := by
        intro item hmem
        obtain ⟨x, -, rfl⟩ := List.mem_map.1 hmem
        rfl
      refine List.pairwise_append.2 ⟨?_, List.pairwise_singleton .., ?_⟩
      · exact List.pairwise_of_forall_mem_list fun x hx _ _ => hevents x hx
      · exact fun x hx _ _ => hevents x hx

theorem NodeStream.arrives (h : NodeStream b items client (.ok (stream, err))) :
    Arrives b items := by
  cases h with
  | direct harr => exact harr
  | remote harr => exact harr

theorem NodeStream.streams (h : NodeStream b items client (.ok (stream, err))) :
    Streams b items := h.arrives.streams

theorem NodeStream.finalLast (h : NodeStream b items client (.ok (stream, err))) :
    FinalLast stream := by
  cases h with
  | direct harr => exact .of_streams harr.streams
  | remote harr err₀ _ hwire =>
      exact List.Pairwise.sublist hwire.sublist (NodeServer.finalLast harr.streams err₀)

theorem eventsOf_events (items : List PromptStreamItem) :
    eventsOf (NodeServer.events items) = eventsOf items := by
  simp only [eventsOf, NodeServer.events, List.filter_map, List.map_map, List.filter_filter]
  simp [Function.comp_def]

/-- **The events that a client reads** are the first of those that the runner has received. -/
theorem NodeStream.events (h : NodeStream b items client (.ok (stream, err))) :
    eventsOf stream <+: eventsOf items := by
  cases h with
  | direct => exact List.prefix_rfl
  | remote harr err₀ _ hwire =>
      obtain ⟨rest, hrest⟩ := hwire
      have hwhole : eventsOf (NodeServer.prompt (.ok (items, err₀))).1 <+: eventsOf items := by
        rw [NodeServer.prompt_eq harr.streams]
        cases items.getLast? with
        | none => exact List.nil_prefix
        | some last =>
            have hclosing : eventsOf [{ run := last.run, final := true }] = [] := rfl
            rw [eventsOf_append, eventsOf_events, hclosing, List.append_nil]
      rw [← hrest, eventsOf_append] at hwhole
      exact (List.prefix_append _ _).trans hwhole

theorem Publish.event_of_no_type (publish : Publish σ) (s : σ) {event : Event}
    (h : event.type = "") : publish.event s event = (s, none) := by
  cases publish <;> simp [Publish.event, h]

/-- The callback of the remote client gets the events that the runner has received. -/
theorem Publish.accepts_events (publish : Publish σ) (s : σ) (run : Run)
    (items : List PromptStreamItem) :
    publish.accepts s (NodeServer.events items ++ [{ run, final := true }]) =
      publish.accepts s items := by
  induction items generalizing s with
  | nil =>
      have hev : publish.event s {} = (s, none) := publish.event_of_no_type s rfl
      simp [NodeServer.events, Publish.accepts, hev]
  | cons item items ih =>
      by_cases htype : item.event.type = ""
      · have hcons : NodeServer.events (item :: items) = NodeServer.events items := by
          simp [NodeServer.events, htype]
        rw [hcons, Publish.accepts, publish.event_of_no_type s htype]
        exact ih s
      · have hcons : NodeServer.events (item :: items) =
            { event := item.event } :: NodeServer.events items := by
          simp [NodeServer.events, htype]
        rw [hcons, List.cons_append, Publish.accepts, Publish.accepts]
        rcases publish.event s item.event with ⟨s', _ | e⟩
        · exact ih s'
        · rfl

/-- **`Runner.Prompt` returns a run** when the callback takes every event, and then that of the
last item. -/
theorem Runner.prompt_eq_ok_iff (hs : Streams b items) {run : Run} {s : σ} :
    (Runner.prompt publish (.ok (items, err)) s).2 = .ok run ↔
      publish.accepts s items = true ∧ ∃ last, items.getLast? = some last ∧ last.run = run := by
  have hids : ∀ item ∈ items, item.run.id ≠ "" := fun item hmem => by
    rw [hs.id hmem]
    exact b.runID_ne_empty
  have hloop : (promptLoop (Runner.onItem publish) items err {} s).2 = .ok run ↔
      publish.accepts s items = true ∧ Client.direct.outcome items err {} = .ok run :=
    Client.direct.loop_eq_ok (FinalLast.of_streams hs)
  refine hloop.trans (and_congr_right fun _ => ?_)
  rw [Client.direct_outcome (FinalLast.of_streams hs) hids]
  exact or_iff_right fun h => h.2.1 rfl

/-- **`RemoteNodeClient.Prompt` returns a run** when the stream of the server arrives as a whole
and the callback takes every event, and then that of the last item that the runner has
received. -/
theorem RemoteNodeClient.prompt_eq_ok_iff (hs : Streams b items) {err' : Err}
    (hwire : stream <+: (NodeServer.prompt (.ok (items, err))).1) {run : Run} {s : σ} :
    (RemoteNodeClient.prompt publish (stream, err') s).2 = .ok run ↔
      stream = (NodeServer.prompt (.ok (items, err))).1 ∧ publish.accepts s items = true ∧
        ∃ last, items.getLast? = some last ∧ last.run = run := by
  have hloop : (promptLoop (RemoteNodeClient.onItem publish) stream err' {} s).2 = .ok run ↔
      publish.accepts s stream = true ∧ Client.remote.outcome stream err' {} = .ok run :=
    Client.remote.loop_eq_ok (List.Pairwise.sublist hwire.sublist (NodeServer.finalLast hs err))
  refine hloop.trans ?_
  have hstream := NodeServer.prompt_eq hs err
  cases hget : items.getLast? with
  | none =>
      rw [hget] at hstream
      rw [hstream] at hwire
      obtain rfl := List.prefix_nil.1 hwire
      simp [Client.outcome, onBreak]
  | some last =>
      rw [hget] at hstream
      rw [hstream] at hwire ⊢
      have hid : last.run.id ≠ "" := by
        rw [hs.id (List.mem_of_getLast? hget)]
        exact b.runID_ne_empty
      rcases List.prefix_concat_iff.1 hwire with rfl | hwire
      · rw [Publish.accepts_events, Client.remote_outcome_closing hid]
        simp
      · have hno : Client.remote.outcome stream err' {} ≠ .ok run :=
          Client.remote_outcome_events hwire
        have hne : stream ≠ NodeServer.events items ++ [{ run := last.run, final := true }] := by
          rintro rfl
          have hlen := hwire.length_le
          rw [List.length_append, List.length_singleton] at hlen
          omega
        simp [hno, hne]

end

end NodeRuntime
end Agentd

/-
# Where the calls for a session go

`Prompt` and `Cancel` name a session and not its container, and `handleBySession` takes the first
container whose supervisor lists the session.  So the call goes to the container of the session
when no other container lists the same id.  Nothing sees to that: `CreateSession` and
`LoadSession` take the id that the request carries (`sharedSession_misdispatched`).

The supervisor of a container is asked through the socket file of the container when its
connection has to be made anew.  So the containers must have sockets of their own, too: then a
handle never leads to the supervisor of another container (`LinksOwn`).
`dispatched_of_apart` says that nothing else is needed.
-/

import Agentd.NodeRuntime.Links

namespace Agentd
namespace Supervisor

open Control Concurrency

/-- The sessions after a step in a container: as they were, or with the one that a call
enters. -/
theorem managerStep_sessions {p q : Pool Manager ManagerCall} {l : ManagerLabel}
    (h : managerStep p l = some q) :
    (q.shared.sessions = p.shared.sessions ∧
        ∀ (i : ℕ) req sess, l = .calls (.step i .insert) →
          p.threads[i]? ≠ some (.session req (.insert sess))) ∨
      ∃ (i : ℕ) (req : SessionRequest) (sess : Session), l = .calls (.step i .insert) ∧
        p.threads[i]? = some (.session req (.insert sess)) ∧
          q.shared.sessions = p.shared.sessions.upsert sess := by
  cases l with
  | calls l =>
      cases l with
      | spawn req =>
          obtain ⟨c, -, rfl⟩ := Pool.step_spawn.1 (show p.step _ _ = some q from h)
          exact Or.inl ⟨rfl, by rintro i req sess ⟨⟩⟩
      | step i a =>
          obtain ⟨c, m', c', hi, rfl, hstep⟩ := managerStep_call h
          rcases hstep with ⟨req, pc, pc', rfl, rfl, hs⟩ | ⟨req, pc, pc', rfl, rfl, hs⟩
          · refine Or.inl ⟨by cases hs <;> rfl, ?_⟩
            rintro j req' sess hj hthread
            obtain ⟨rfl, -⟩ := PoolLabel.step.inj (ManagerLabel.calls.inj hj)
            cases hi.symm.trans hthread
          · cases hs with
            | inserted sess => exact Or.inr ⟨i, req, sess, rfl, hi, rfl⟩
            | notFound | found | refused | accepted =>
                exact Or.inl ⟨rfl, by rintro j req' sess ⟨⟩⟩
  | exit n =>
      obtain rfl := Option.some.inj h
      exact Or.inl ⟨rfl, by rintro i req sess ⟨⟩⟩
  | waited n now =>
      obtain ⟨m', hm', rfl⟩ := Option.map_eq_some_iff.1 h
      obtain ⟨handle, -, rfl⟩ := Manager.waited_eq_some hm'
      exact Or.inl ⟨rfl, by rintro i req sess ⟨⟩⟩

end Supervisor

namespace NodeRuntime

open Control Supervisor Concurrency

/-- What a step returns of a `CreateSession` or `LoadSession`: the session, with the number of the
supervisor. -/
def returnedSession (r : Runner) : LinkLabel → Option (ℕ × Session)
  | .supervisor n (.step i .insert) =>
      r.supervisors[n]?.bind fun p =>
        match p.threads[i]? with
        | some (.session _ (.insert sess)) => some (n, sess)
        | _ => none
  | _ => none

/-- The supervisor that has most recently returned the session. -/
def lastReturned (past : List (Node × LinkLabel)) (sessionID : String) : Option ℕ :=
  ((past.filterMap fun s => returnedSession s.1.runner s.2).filter
    fun x => x.2.id = sessionID).getLast?.map fun x => x.1

/-- The calls made one after the other through the handles meet what the node has there, or
fail. -/
def Node.Answers (s : Node) (reach : Reach) : Prop :=
  ∀ h, reach h = s.reach h ∨ ∃ err, reach h = .error err

/-- **Sessions are dispatched to their own container.**  While the supervisor that has most
recently returned a session is that of a container, and answers, the calls for the session go
through the handle of that container to that supervisor, in whatever order the map is iterated,
and whether or not the other supervisors answer. -/
def Node.Dispatched (s : Node) (past : List (Node × LinkLabel)) : Prop :=
  ∀ sessionID n, lastReturned past sessionID = some n →
    ∀ id h, s.runner.containers.get id = some h → h.supervisor = n →
      ∀ reach m, s.Answers reach → reach h = .ok m →
        ∀ handles, handles.Perm s.runner.containers.toList →
          handleBySession reach handles sessionID = .ok h ∧ s.link h = some n

namespace Runner

/-- Supervisor `n` has the session. -/
def Holds (r : Runner) (n : ℕ) (sessionID : String) : Prop :=
  ∃ p, r.supervisors[n]? = some p ∧ ∃ sess, p.shared.sessions.get sessionID = some sess

instance (r : Runner) (n : ℕ) (sessionID : String) : Decidable (r.Holds n sessionID) :=
  match hp : r.supervisors[n]? with
  | none => isFalse fun ⟨p, hp', _⟩ => by rw [hp] at hp'; cases hp'
  | some p =>
      match hsess : p.shared.sessions.get sessionID with
      | some sess => isTrue ⟨p, hp, sess, hsess⟩
      | none => isFalse fun ⟨p', hp', sess, hsess'⟩ => by
          obtain rfl := Option.mem_unique hp hp'
          rw [hsess] at hsess'
          cases hsess'

/-- **The sessions are apart.**  No two containers share a supervisor, or have supervisors with a
common session; and a session that was returned is in the supervisor that returned it. -/
structure SessionsApart (r : Runner) (past : List (Node × LinkLabel)) : Prop where
  one : ∀ id h id' h', r.containers.get id = some h → r.containers.get id' = some h' →
    h.supervisor = h'.supervisor → id = id'
  started : ∀ id h, r.containers.get id = some h → h.supervisor < r.supervisors.length
  apart : ∀ id h id' h' sessionID, r.containers.get id = some h →
    r.containers.get id' = some h' → r.Holds h.supervisor sessionID →
      r.Holds h'.supervisor sessionID → h.supervisor = h'.supervisor
  entered : ∀ n sess, (n, sess) ∈ past.filterMap (fun s => returnedSession s.1.runner s.2) →
    r.Holds n sess.id

variable {host : Host} {r r' : Runner} {l : LinkLabel} {past : List (Node × LinkLabel)}

theorem returnedSession_of_ne (hl : ∀ n l', l ≠ .supervisor n l') : returnedSession r l = none := by
  unfold returnedSession
  split
  · exact absurd rfl (hl _ _)
  · rfl

/-- A step of a supervisor adds the session that it returns, if it returns one. -/
theorem holds_set {n : ℕ} {p q : Pool Manager ManagerCall} {l : SupervisorLabel}
    (hp : r.supervisors[n]? = some p) (hq : managerStep p l.label = some q) (n' : ℕ)
    (sessionID : String) :
    Holds { r with supervisors := r.supervisors.set n q } n' sessionID ↔
      r.Holds n' sessionID ∨
        ∃ sess, returnedSession r (.supervisor n l) = some (n', sess) ∧ sess.id = sessionID := by
  have hother : ∀ n', n' ≠ n → (Holds { r with supervisors := r.supervisors.set n q } n' sessionID ↔
      r.Holds n' sessionID) := by
    intro n' hne
    unfold Holds
    simp only [List.getElem?_set_ne (Ne.symm hne)]
  have hown : Holds { r with supervisors := r.supervisors.set n q } n sessionID ↔
      ∃ sess, q.shared.sessions.get sessionID = some sess := by
    unfold Holds
    simp only [getElem?_set_of_some q hp, Option.some.injEq, exists_eq_left']
  have hbefore : r.Holds n sessionID ↔ ∃ sess, p.shared.sessions.get sessionID = some sess := by
    unfold Holds
    simp only [hp, Option.some.injEq, exists_eq_left']
  rcases managerStep_sessions hq with ⟨hsame, hnone⟩ | ⟨i, req, sess, hl, hthread, hsess⟩
  · have hret : returnedSession r (.supervisor n l) = none := by
      unfold returnedSession
      split
      · next n' i heq =>
          obtain ⟨rfl, rfl⟩ := LinkLabel.supervisor.inj heq
          rw [hp, Option.bind_some]
          split
          · next req sess hthread => exact absurd hthread (hnone i req sess rfl)
          · rfl
      · rfl
    simp only [hret, reduceCtorEq, false_and, exists_false, or_false]
    by_cases hn : n' = n
    · rw [hn, hown, hbefore, hsame]
    · exact hother n' hn
  · have hret : returnedSession r (.supervisor n l) = some (n, sess) := by
      cases l with
      | step j a =>
          obtain ⟨rfl, rfl⟩ := PoolLabel.step.inj (ManagerLabel.calls.inj hl)
          simp only [returnedSession, hp, Option.bind_some, hthread]
      | exit k => cases hl
      | waited k now => cases hl
    simp only [hret, Option.some.injEq, Prod.mk.injEq]
    by_cases hn : n' = n
    · subst hn
      rw [hown, hbefore, hsess]
      simp only [Table.get_upsert]
      constructor
      · rintro ⟨sess', hget⟩
        split_ifs at hget with hid
        · exact Or.inr ⟨sess, ⟨trivial, rfl⟩, hid.symm⟩
        · exact Or.inl ⟨sess', hget⟩
      · rintro (⟨sess', hget⟩ | ⟨_, ⟨-, rfl⟩, rfl⟩)
        · split_ifs
          · exact ⟨sess, rfl⟩
          · exact ⟨sess', hget⟩
        · exact ⟨sess, if_pos rfl⟩
    · rw [hother n' hn]
      constructor
      · exact Or.inl
      · rintro (hold | ⟨_, ⟨rfl, -⟩, -⟩)
        · exact hold
        · exact absurd rfl hn

/-- **The sessions after a step of a node**: those that were there, and the one that the step
returns. -/
theorem holds_step (h : Node.Change host r l r') (n : ℕ) (sessionID : String) :
    r'.Holds n sessionID ↔
      r.Holds n sessionID ∨
        ∃ sess, returnedSession r l = some (n, sess) ∧ sess.id = sessionID := by
  cases h with
  | same l hl =>
      simp only [returnedSession_of_ne hl, reduceCtorEq, false_and, exists_false, or_false]
  | provisioned req raw now =>
      simp only [returnedSession, reduceCtorEq, false_and, exists_false, or_false]
      constructor
      · rintro ⟨p, hp, sess, hsess⟩
        rcases getElem?_concat_cases hp with ⟨-, rfl⟩ | hp
        · cases hsess
        · exact ⟨p, hp, sess, hsess⟩
      · rintro ⟨p, hp, hsess⟩
        exact ⟨p, getElem?_append_of_some _ hp, hsess⟩
  | deleted id =>
      simp only [returnedSession, reduceCtorEq, false_and, exists_false, or_false, Holds,
        deleteContainer_supervisors]
  | began req k p q hp hq =>
      obtain ⟨c, -, rfl⟩ := Pool.step_spawn.1 (show p.step _ _ = some q from hq)
      simp only [returnedSession, reduceCtorEq, false_and, exists_false, or_false]
      by_cases hn : n = k
      · subst hn
        simp only [Holds, hp, getElem?_set_of_some _ hp, Option.some.injEq, exists_eq_left']
      · simp only [Holds, List.getElem?_set_ne (Ne.symm hn)]
  | moved n' l p q hp hq => exact holds_set hp hq n sessionID

/-- **The containers after a step of a node**: a handle was there, or it is the new one, with a
supervisor of its own. -/
theorem containers_step (h : Node.Change host r l r') :
    r.supervisors.length ≤ r'.supervisors.length ∧
      ∃ id₀, ∀ id hd, r'.containers.get id = some hd →
        r.containers.get id = some hd ∨
          id = id₀ ∧ hd.supervisor = r.supervisors.length ∧
            r.supervisors.length < r'.supervisors.length := by
  cases h with
  | provisioned req raw now =>
      have hlen : (r.provisionContainer host req raw now).1.supervisors.length =
          r.supervisors.length + 1 := List.length_append
      refine ⟨by omega, containerID req raw, fun id hd hget => ?_⟩
      rcases provisionContainer_get host r req raw now hget with ⟨hid, rfl⟩ | ⟨-, hold⟩
      · exact Or.inr ⟨hid, newHandle_supervisor .., by omega⟩
      · exact Or.inl hold
  | deleted id =>
      rw [deleteContainer_supervisors]
      exact ⟨le_rfl, id, fun id' hd hget => Or.inl (deleteContainer_get hget).2⟩
  | same => exact ⟨le_rfl, "", fun id hd hget => Or.inl hget⟩
  | began | moved => exact ⟨List.length_set.symm.le, "", fun id hd hget => Or.inl hget⟩

theorem Holds.lt {n : ℕ} {sessionID : String} (h : r.Holds n sessionID) :
    n < r.supervisors.length := by
  obtain ⟨p, hp, -⟩ := h
  exact (List.getElem?_eq_some_iff.1 hp).1

/-- A step that returns a session is one of a supervisor that has been started. -/
theorem returnedSession_lt {n : ℕ} {sess : Session} (h : returnedSession r l = some (n, sess)) :
    n < r.supervisors.length := by
  unfold returnedSession at h
  split at h
  · obtain ⟨p, hp, hrest⟩ := Option.bind_eq_some_iff.1 h
    split at hrest
    · obtain ⟨rfl, -⟩ := some_pair_inj hrest
      exact (List.getElem?_eq_some_iff.1 hp).1
    · cases hrest
  · cases h

theorem not_holds_new (h : Node.Change host r l r') {sessionID : String} :
    ¬r'.Holds r.supervisors.length sessionID := by
  intro hholds
  rcases (holds_step h _ _).1 hholds with hold | ⟨sess, hret, -⟩
  · exact lt_irrefl _ hold.lt
  · exact lt_irrefl _ (returnedSession_lt hret)

theorem SessionsApart.new (nodeID root : String) : SessionsApart (newRunner nodeID root) [] where
  one _ _ _ _ hget := by cases hget
  started _ _ hget := by cases hget
  apart _ _ _ _ _ hget := by cases hget
  entered _ _ hmem := by cases hmem

end Runner

namespace Node

variable {host : Host} {s s' : Node} {l : LinkLabel} {past : List (Node × LinkLabel)}

/-- A session that the step returns is in the supervisor of no other container. -/
def SessionApart (s : Node) (l : LinkLabel) : Prop :=
  ∀ x ∈ returnedSession s.runner l, ∀ h ∈ s.runner.containers.toList,
    s.runner.Holds h.supervisor x.2.id → h.supervisor = x.1

/-- A container that the step provisions has the socket of no other container. -/
def SocketApart (host : Host) (s : Node) : LinkLabel → Prop
  | .provision req raw now none => ∀ h ∈ s.runner.containers.toList,
      h.container.id ≠ containerID req raw → h.socket ≠ (s.runner.newHandle host req raw now).socket
  | _ => True

/-- Containers have sockets and sessions of their own. -/
def Apart (host : Host) (s : Node) (l : LinkLabel) : Prop := s.SessionApart l ∧ s.SocketApart host l

instance (s : Node) (l : LinkLabel) : Decidable (s.SessionApart l) :=
  inferInstanceAs (Decidable (∀ x ∈ returnedSession s.runner l, ∀ h ∈ s.runner.containers.toList,
    s.runner.Holds h.supervisor x.2.id → h.supervisor = x.1))

instance (s : Node) : DecidablePred (s.SocketApart host)
  | .provision req raw now none => inferInstanceAs (Decidable (∀ h ∈ s.runner.containers.toList,
      h.container.id ≠ containerID req raw →
        h.socket ≠ (s.runner.newHandle host req raw now).socket))
  | .provision _ _ _ (some _) | .delete _ | .call _ | .supervisor _ _ | .connected _
  | .disconnected _ => inferInstanceAs (Decidable True)

instance (s : Node) (l : LinkLabel) : Decidable (s.Apart host l) :=
  inferInstanceAs (Decidable (_ ∧ _))

/-- **Handles lead to their own supervisors**, if anywhere. -/
structure LinksOwn (s : Node) : Prop where
  socket : ∀ id h n, s.runner.containers.get id = some h → s.sockets.lookup h.socket = some n →
    n = h.supervisor
  conn : ∀ k n, s.conns.lookup k = some n → n = k

/-- **A step of a node** that returns a session of no other container keeps the sessions
apart. -/
theorem sessionsApart_step (hr : s.runner.SessionsApart past) (hapart : s.SessionApart l)
    (hstep : s.step host l = some s') : s'.runner.SessionsApart (past ++ [(s, l)]) := by
  have h := step_change hstep
  obtain ⟨hlen, id₀, hcontainers⟩ := Runner.containers_step h
  refine ⟨?_, ?_, ?_, ?_⟩
  · intro id hd id' hd' hget hget' heq
    rcases hcontainers id hd hget with hold | ⟨rfl, hnew, -⟩
    · rcases hcontainers id' hd' hget' with hold' | ⟨-, hnew', -⟩
      · exact hr.one id hd id' hd' hold hold' heq
      · have hlt := hr.started id hd hold
        omega
    · rcases hcontainers id' hd' hget' with hold' | ⟨rfl, -, -⟩
      · have hlt := hr.started id' hd' hold'
        omega
      · rfl
  · intro id hd hget
    rcases hcontainers id hd hget with hold | ⟨-, hnew, hlt⟩
    · exact (hr.started id hd hold).trans_le hlen
    · omega
  · intro id hd id' hd' sessionID hget hget' hholds hholds'
    rcases hcontainers id hd hget with hold | ⟨-, hnew, -⟩
    · rcases hcontainers id' hd' hget' with hold' | ⟨-, hnew', -⟩
      · rcases (Runner.holds_step h _ _).1 hholds with hs | ⟨sess, hret, rfl⟩
        · rcases (Runner.holds_step h _ _).1 hholds' with hs' | ⟨sess, hret, rfl⟩
          · exact hr.apart id hd id' hd' sessionID hold hold' hs hs'
          · exact hapart _ hret hd (Runner.mem_containers hold) hs
        · rcases (Runner.holds_step h _ _).1 hholds' with hs' | ⟨sess', hret', -⟩
          · exact (hapart _ hret hd' (Runner.mem_containers hold') hs').symm
          · exact (Prod.mk.inj (Option.mem_unique hret hret')).1
      · exact absurd (hnew' ▸ hholds') (Runner.not_holds_new h)
    · exact absurd (hnew ▸ hholds) (Runner.not_holds_new h)
  · intro n sess hmem
    rw [List.filterMap_append, List.mem_append] at hmem
    rw [Runner.holds_step h]
    rcases hmem with hold | hnew
    · exact Or.inl (hr.entered n sess hold)
    · rw [List.filterMap_cons, List.filterMap_nil] at hnew
      split at hnew
      · cases hnew
      · next x hret =>
          obtain rfl := List.mem_singleton.1 hnew
          exact Or.inr ⟨sess, hret, rfl⟩

/-- **A container with a socket of its own is provisioned.** -/
theorem LinksOwn.provision (hs : s.LinksOwn) {req : CreateContainerRequest} {raw : String}
    {now : Time} (hapart : s.SocketApart host (.provision req raw now none)) :
    (s.provision host req raw now none).1.LinksOwn := by
  refine ⟨fun id h n hid hn => ?_, fun k n hn => ?_⟩
  · rcases Runner.provisionContainer_get host s.runner req raw now hid with ⟨-, rfl⟩ | ⟨hne, hold⟩
    · exact (Option.some.inj ((AList.lookup_insert _).symm.trans hn)).symm
    · have hname : h.container.id = id := Table.key_of_get (t := s.runner.containers) hold
      have hsocket := hapart h (Runner.mem_containers hold) (hname.symm ▸ hne)
      exact hs.socket id h n hold ((AList.lookup_insert_ne hsocket).symm.trans hn)
  · exact hs.conn k n (GoMap.lookup_erase_some hn).2

/-- **A step of a node** in which no container takes over the socket of another leaves every handle
with its own supervisor. -/
theorem LinksOwn.step (hs : s.LinksOwn) (hapart : s.SocketApart host l)
    (hstep : s.step host l = some s') : s'.LinksOwn := by
  cases step_relink hstep with
  | fewer l s' hget hsocket hconn =>
      exact ⟨fun id h n hid hn => hs.socket id h n (hget id h hid) (hsocket _ n hn),
        fun k n hn => hs.conn k n (hconn k n hn)⟩
  | provisioned req raw now => exact hs.provision hapart
  | connected id h n hget hn =>
      -- the connection is made through the socket, which is that of its own supervisor
      refine ⟨hs.socket, fun k n' hn' => ?_⟩
      rcases GoMap.lookup_insert_cases hn' with ⟨rfl, rfl⟩ | ⟨-, hold⟩
      · exact hs.socket id h n' hget hn
      · exact hs.conn k n' hold

theorem LinksOwn.new (nodeID root : String) : LinksOwn { runner := newRunner nodeID root } where
  socket id h n hget := by cases hget
  conn k n hn := by cases hn

/-- What answers through a handle is its own supervisor. -/
theorem LinksOwn.reach (hs : s.LinksOwn) {id : String} {h : ContainerHandle} {m : Manager}
    (hget : s.runner.containers.get id = some h) (hreach : s.reach h = .ok m) :
    s.link h = some h.supervisor ∧ ∃ p, s.runner.supervisors[h.supervisor]? = some p ∧ p.shared = m := by
  unfold Node.reach at hreach
  split at hreach
  · next p hp =>
      obtain ⟨n, hlink, hp⟩ := Option.bind_eq_some_iff.1 hp
      have hn : n = h.supervisor := by
        unfold link at hlink
        split at hlink
        · next k hconn =>
            obtain rfl := Option.some.inj hlink
            exact hs.conn _ _ hconn
        · exact hs.socket id h n hget hlink
      subst hn
      exact ⟨hlink, p, hp, Except.ok.inj hreach⟩
  · cases hreach

theorem holds_of_lastReturned (hr : s.runner.SessionsApart past) {sessionID : String} {n : ℕ}
    (hlast : lastReturned past sessionID = some n) : s.runner.Holds n sessionID := by
  obtain ⟨⟨n', sess⟩, hx, rfl⟩ := Option.map_eq_some_iff.1 hlast
  obtain ⟨hmem, hid⟩ := List.mem_filter.1 (List.mem_of_getLast? hx)
  obtain rfl : sess.id = sessionID := of_decide_eq_true hid
  exact hr.entered n' sess hmem

/-- While sessions are apart and links their own, every call goes to the container of its
session. -/
theorem dispatched_of_linksOwn (hr : s.runner.SessionsApart past) (hs : s.LinksOwn) :
    s.Dispatched past := by
  intro sessionID n hlast id hd hget hsup reach m hconn hreach handles hperm
  have hanswer {h : ContainerHandle} {m : Manager} (hm : reach h = .ok m) : s.reach h = .ok m := by
    rcases hconn h with hsame | ⟨err, herr⟩
    · exact hsame ▸ hm
    · cases herr.symm.trans hm
  obtain ⟨hlink, p, hp, rfl⟩ := hs.reach hget (hanswer hreach)
  refine ⟨?_, hsup ▸ hlink⟩
  have hmem : hd ∈ handles := hperm.mem_iff.2 (Runner.mem_containers hget)
  have hholds : s.runner.Holds hd.supervisor sessionID := hsup ▸ holds_of_lastReturned hr hlast
  have hlists : lists reach sessionID hd = true := by
    obtain ⟨p', hp', sess, hsess⟩ := hholds
    obtain rfl := Option.mem_unique hp hp'
    exact lists_eq_true.2 ⟨_, sess, hreach, hsess⟩
  obtain ⟨hd', hfound⟩ := exists_handleBySession hmem hlists
  rw [hfound]
  -- the handle that is found holds the session too, so it is this one
  obtain ⟨hmem', hlists'⟩ := handleBySession_eq_ok hfound
  have hget' := Table.mem_toList.1 (hperm.mem_iff.1 hmem')
  obtain ⟨m', sess', hreach', hsess'⟩ := lists_eq_true.1 hlists'
  obtain ⟨-, p', hp', rfl⟩ := hs.reach hget' (hanswer hreach')
  have hsame := hr.apart _ hd' id hd sessionID hget' hget ⟨p', hp', sess', hsess'⟩ hholds
  have hid := hr.one _ hd' id hd hget' hget hsame
  rw [hid] at hget'
  rw [Option.mem_unique hget' hget]

/-- **Sessions are dispatched to their own container** in every run of a new node in which a
session that is returned is in the supervisor of no other container at that moment, and a
container that is provisioned has the socket of no other. -/
theorem dispatched_of_apart {nodeID root : String} {l : List LinkLabel}
    (hl : Along (Node.step host) (Apart host) { runner := newRunner nodeID root } l)
    (h : exec (Node.step host) { runner := newRunner nodeID root } l = some s) :
    s.Dispatched (history (Node.step host) { runner := newRunner nodeID root } l) := by
  have hr : s.runner.SessionsApart (history (Node.step host) { runner := newRunner nodeID root } l) :=
    exec_invariant_history (I := fun s past => s.runner.SessionsApart past)
      (fun _ _ _ _ hr hC ht => sessionsApart_step hr hC.1 ht) (.new nodeID root) hl h
  have hs : s.LinksOwn :=
    exec_invariant (fun _ _ _ hs hC ht => hs.step hC.2 ht) (.new nodeID root) hl h
  exact dispatched_of_linksOwn hr hs

end Node

open Node

theorem exists_reach {s : Node} {h : ContainerHandle} (hok : (s.reach h).isOk = true) :
    ∃ m, s.reach h = .ok m := by
  cases hm : s.reach h with
  | error e =>
      rw [hm] at hok
      cases hok
  | ok m => exact ⟨m, rfl⟩

/-- A session of the agent of a container. -/
def startSession (id : String) (n : ℕ) (sessionID : String) : List LinkLabel :=
  linkedAgent id n ++
    [.call (.session (.create { containerID := id, agentInstanceID := "agent_1", sessionID })),
      .supervisor n (.step 1 (.agentByID "")), .supervisor n (.step 1 (.answered (.ok {}) 4)),
      .supervisor n (.step 1 .insert)]

/-- Two containers with a session each; the connection of the second goes down. -/
def twoSessions : List LinkLabel :=
  startSession "ctr_1" 0 "sess_1" ++ startSession "ctr_2" 1 "sess_2" ++ [.disconnected 1]

/-- The calls for the session of the second container go there. -/
theorem twoSessions_dispatched : ∃ s h,
    exec (Node.step {}) { runner := newRunner "node-1" "/var/agentd" } twoSessions = some s ∧
      s.runner.containers.get "ctr_2" = some h ∧
        ∀ handles, handles.Perm s.runner.containers.toList →
          handleBySession s.reach handles "sess_2" = .ok h ∧ s.link h = some 1 := by
  obtain ⟨s, hs, h, hget, hsup, hreach⟩ : ∃ s ∈ exec (Node.step {})
      { runner := newRunner "node-1" "/var/agentd" } twoSessions,
      ∃ h ∈ s.runner.containers.get "ctr_2", h.supervisor = 1 ∧ (s.reach h).isOk = true := by
    decide +kernel
  have hlast : lastReturned (history (Node.step {})
      { runner := newRunner "node-1" "/var/agentd" } twoSessions) "sess_2" = some 1 := by
    decide +kernel
  have hl : Along (Node.step {}) (Apart {}) { runner := newRunner "node-1" "/var/agentd" }
      twoSessions := by
    decide +kernel
  obtain ⟨m, hm⟩ := exists_reach hreach
  exact ⟨s, h, hs, hget, dispatched_of_apart hl hs "sess_2" 1 hlast "ctr_2" h hget hsup
    s.reach m (fun _ => Or.inl rfl) hm⟩

/-- Both containers have a session `sess_1`; the second was opened last. -/
def sharedSession : List LinkLabel :=
  startSession "ctr_1" 0 "sess_1" ++ startSession "ctr_2" 1 "sess_1"

/-- **The calls for a session go to another container** that has a session of the same id: the
session was most recently returned for the second container, and the map is iterated from the
first. -/
theorem sharedSession_misdispatched :
    ∃ s ∈ exec (Node.step {}) { runner := newRunner "node-1" "/var/agentd" } sharedSession,
      ¬s.Dispatched
        (history (Node.step {}) { runner := newRunner "node-1" "/var/agentd" } sharedSession) := by
  obtain ⟨s, hs, h, hget, hsup, hreach, hother⟩ : ∃ s ∈ exec (Node.step {})
      { runner := newRunner "node-1" "/var/agentd" } sharedSession,
      ∃ h ∈ s.runner.containers.get "ctr_2", h.supervisor = 1 ∧ (s.reach h).isOk = true ∧
        ((handleBySession s.reach s.runner.containers.toList.reverse "sess_1").toOption.map
          fun h => h.supervisor) = some 0 := by
    decide +kernel
  have hlast : lastReturned (history (Node.step {})
      { runner := newRunner "node-1" "/var/agentd" } sharedSession) "sess_1" = some 1 := by
    decide +kernel
  refine ⟨s, hs, fun hdisp => ?_⟩
  obtain ⟨m, hm⟩ := exists_reach hreach
  obtain ⟨hfound, -⟩ := hdisp "sess_1" 1 hlast "ctr_2" h hget hsup s.reach m
    (fun _ => Or.inl rfl) hm _ (List.reverse_perm _)
  rw [hfound] at hother
  have hzero : h.supervisor = 0 := Option.some.inj hother
  omega

end NodeRuntime
end Agentd

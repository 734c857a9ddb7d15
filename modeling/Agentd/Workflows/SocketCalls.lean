/-
# Calls that go out through a socket

`rpc.DialUnix` does not wait for the connection of a handle (`runtime/rpc/dial.go`).  The
connection is made when it is needed, through the path of the socket, and made anew when it
breaks; so a call reaches the supervisor that listens there, and that need not be the one that was
started for the handle: the ids `ctr_1` and `./ctr_1` have one socket.  And `ProvisionContainer` is
not one step: its supervisor listens, and serves what comes through the socket, before the handle
is entered and the call returns.

`linkedStep` adds this to the steps of a site.  A call that has found a handle may be redialled to
any supervisor that was started on the socket of the handle, and `handleBySession` may have asked
such a one.  Which of them listens at the moment is not kept here: the model lets a call go to each
of them, also to one that has been replaced, and so wherever `Node.link` leads
(`calls_follow_links`).
-/

import Agentd.Workflows.Site

namespace Agentd
namespace NodeRuntime

open Supervisor Filepath

/-- `ProvisionContainer` has started the supervisor of the container, and nothing more. -/
def Runner.listen (host : Host) (r : Runner) (id : String) : Runner :=
  { r with supervisors := r.supervisors ++ [⟨newManager id host.environ, []⟩] }

end NodeRuntime

namespace Workflows

open Control Store NodeRuntime Supervisor Concurrency Filepath

/-- The socket of a container on node `k`, of its handle and of its supervisors. -/
def Site.socket (s : Site) (k id : String) : String :=
  supervisorSocket (s.world.host k) (joinPath (s.world.runner k).root id)

/-- The supervisors that were started on one socket of node `k` are those of one container. -/
def Site.SocketsApart (s : Site) (k : String) : Prop :=
  ∀ sup ∈ (s.world.runner k).supervisors, ∀ sup' ∈ (s.world.runner k).supervisors,
    s.socket k sup.shared.containerID = s.socket k sup'.shared.containerID →
      sup.shared.containerID = sup'.shared.containerID

instance (s : Site) (k : String) : Decidable (s.SocketsApart k) :=
  inferInstanceAs (Decidable (∀ sup ∈ _, ∀ sup' ∈ _, _ → _))

/-- The node whose supervisors the activity calls. -/
def Activity.callsNode : Activity → Option String
  | .session (.prompt (.nodePrompt _ _ k _)) => some k
  | x => x.asks.map Prod.fst

namespace Job

/-- `ProvisionContainer` listens on the socket, and is still under way.  The call adds the supervisor
of the container once more when it enters the handle: more can be reached here than in the code. -/
def listen (s : Site) (raw : String) (job : Job) : Option Site :=
  match job.activity with
  | .provision (.nodeProvision req) =>
      match s.world.node req.profile.nodeID with
      | .ok k =>
          let r := (s.world.runner k).listen (s.world.host k) (containerID req raw)
          some { s with world := s.world.setRunner k r }
      | .error _ => none
  | _ => none

/-- The call that was to go to supervisor `n` is connected to supervisor `n'`, which was started on
the same socket. -/
def redial (s : Site) (n' : ℕ) (job : Job) : Option Job :=
  match job.waiting with
  | some (.found n) =>
      job.activity.callsNode.bind fun k =>
        (s.supervisor? k n).bind fun sup =>
          (s.supervisor? k n').bind fun sup' =>
            if s.socket k sup.shared.containerID = s.socket k sup'.shared.containerID then
              some { job with waiting := some (.found n') }
            else none
  | _ => none

/-- `handleBySession` finds the handle of container `id`: supervisor `n`, which was started on its
socket, lists the session. -/
def findThrough (s : Site) (id : String) (n : ℕ) (job : Job) : Option Job :=
  match job.waiting, job.activity with
  | none, .session (.prompt (.nodePrompt req _ k _)) =>
      ((s.world.runner k).containers.get id).bind fun h =>
        (s.supervisor? k n).bind fun sup =>
          if s.socket k sup.shared.containerID = h.socket ∧
              (sup.shared.sessions.get req.sessionID).isSome then
            some { job with waiting := some (.found n) }
          else none
  | _, _ => none

end Job

/-- What happens next: a step of the site, or one that the sockets make possible. -/
inductive LinkedLabel
  | site (l : SiteLabel)
  | listen (i : ℕ) (raw : String)
  | redial (i n : ℕ)
  | findThrough (i : ℕ) (id : String) (n : ℕ)

/-- One step of a site whose calls go out through sockets. -/
def linkedStep (p : Pool Site Job) : LinkedLabel → Option (Pool Site Job)
  | .site l => siteStep p l
  | .listen i raw =>
      p.threads[i]?.bind fun job => (job.listen p.shared raw).map fun s => { p with shared := s }
  | .redial i n =>
      p.threads[i]?.bind fun job =>
        (job.redial p.shared n).map fun job' => { p with threads := p.threads.set i job' }
  | .findThrough i id n =>
      p.threads[i]?.bind fun job =>
        (job.findThrough p.shared id n).map fun job' => { p with threads := p.threads.set i job' }

/-- What a step can do besides the steps of the site. -/
inductive LinkedStep (p : Pool Site Job) : LinkedLabel → Pool Site Job → Prop
  | site (l : SiteLabel) (q : Pool Site Job) (hq : siteStep p l = some q) :
      LinkedStep p (.site l) q
  | listens (i : ℕ) (raw k id : String) :
      LinkedStep p (.listen i raw)
        { p with
          shared := { p.shared with
            world := p.shared.world.setRunner k
              ((p.shared.world.runner k).listen (p.shared.world.host k) id) } }
  | redialled (i n n' : ℕ) (job : Job) (k : String) (sup sup' : Pool Manager ManagerCall)
      (hi : p.threads[i]? = some job) (hw : job.waiting = some (.found n))
      (hk : job.activity.callsNode = some k) (hsup : p.shared.supervisor? k n = some sup)
      (hsup' : p.shared.supervisor? k n' = some sup')
      (hsocket : p.shared.socket k sup.shared.containerID =
        p.shared.socket k sup'.shared.containerID) :
      LinkedStep p (.redial i n')
        { p with threads := p.threads.set i { job with waiting := some (.found n') } }
  | foundThrough (i n : ℕ) (id : String) (job : Job) (hi : p.threads[i]? = some job)
      (hasks : job.activity.asks = none) :
      LinkedStep p (.findThrough i id n)
        { p with threads := p.threads.set i { job with waiting := some (.found n) } }

/-- **A step is one of `LinkedStep`.** -/
theorem linkedStep_spec {p q : Pool Site Job} {l : LinkedLabel} (h : linkedStep p l = some q) :
    LinkedStep p l q := by
  cases l with
  | site l => exact .site l q h
  | listen i raw =>
      obtain ⟨job, -, hrest⟩ := Option.bind_eq_some_iff.1 h
      obtain ⟨s, hs, rfl⟩ := Option.map_eq_some_iff.1 hrest
      unfold Job.listen at hs
      split at hs
      · split at hs
        · exact Option.some.inj hs ▸ .listens i raw _ _
        · cases hs
      · cases hs
  | redial i n' =>
      obtain ⟨job, hi, hrest⟩ := Option.bind_eq_some_iff.1 h
      obtain ⟨job', hjob, rfl⟩ := Option.map_eq_some_iff.1 hrest
      unfold Job.redial at hjob
      split at hjob
      · next n hw =>
          obtain ⟨k, hk, hjob⟩ := Option.bind_eq_some_iff.1 hjob
          obtain ⟨sup, hsup, hjob⟩ := Option.bind_eq_some_iff.1 hjob
          obtain ⟨sup', hsup', hjob⟩ := Option.bind_eq_some_iff.1 hjob
          split_ifs at hjob with hsocket
          exact Option.some.inj hjob ▸ .redialled i n n' job k sup sup' hi hw hk hsup hsup' hsocket
      · cases hjob
  | findThrough i id n =>
      obtain ⟨job, hi, hrest⟩ := Option.bind_eq_some_iff.1 h
      obtain ⟨job', hjob, rfl⟩ := Option.map_eq_some_iff.1 hrest
      unfold Job.findThrough at hjob
      split at hjob
      · next req sess k run hw hact =>
          obtain ⟨hd, -, hjob⟩ := Option.bind_eq_some_iff.1 hjob
          obtain ⟨sup, -, hjob⟩ := Option.bind_eq_some_iff.1 hjob
          split_ifs at hjob
          exact Option.some.inj hjob ▸ .foundThrough i n id job hi (by rw [hact]; rfl)
      · cases hjob

end Workflows
end Agentd

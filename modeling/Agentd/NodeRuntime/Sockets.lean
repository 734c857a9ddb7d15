/-
# The sockets of supervisors

`SupervisorSocket` (`runtime/supervisor/manager.go`) puts the socket of a container into its
directory.  Where the path would have ninety-six bytes or more, it goes into the temporary
directory instead, under a name with the first four bytes of the SHA-1 sum of the directory.
`ProvisionContainer` (`runtime/local/runner.go`) removes what is at that path and listens there.

The two kinds of names never meet, and the short ones are as different as the directories.  Four
bytes are not enough for the others: `hashedSockets_collide` has two directories of one node with
the same four bytes, where the second container takes the place of the first on its socket.
`sockets_apart_iff` says that nothing else makes two sockets one.
-/

import Agentd.Encoding.Digest
import Agentd.NodeRuntime.Directories
import Agentd.NodeRuntime.Reprovision

namespace Agentd
namespace NodeRuntime

open Control Filepath Concurrency Encoding

/-- `fmt.Sprintf("%x", sum[:4])`, for the SHA-1 sum of a text. -/
def sha1Digits (text : String) : String :=
  String.ofList (hexBytes ((Sha1.sum (utf8 text)).take 4))

/-- The sockets of both directories are named after a hash, and the hashes are the same. -/
def SameHash (host : Host) (a b : String) : Prop :=
  LongSocket a ∧ LongSocket b ∧ host.sum a = host.sum b

/-- Whoever listens on the socket of the handle is not disturbed when the request is carried out,
wherever that fails. -/
def Node.Undisturbed (host : Host) (s : Node) (h : ContainerHandle) (req : CreateContainerRequest)
    (raw : String) (now : Time) : Prop :=
  ∀ failure, (s.provision host req raw now failure).1.sockets.lookup h.socket =
    s.sockets.lookup h.socket

section

variable {host : Host} {a b root : String}

theorem isName_supervisorSock : IsName "supervisor.sock".toList := by
  decide

theorem isName_hashed (text : String) : IsName ("agd-" ++ sha1Digits text ++ ".sock").toList := by
  have htext : ("agd-" ++ sha1Digits text ++ ".sock").toList =
      "agd-".toList ++ hexBytes ((Sha1.sum (utf8 text)).take 4) ++ ".sock".toList := by
    simp only [String.toList_append, sha1Digits, String.toList_ofList]
  rw [htext]
  refine ⟨fun h => ?_, fun h => ?_, fun h => ?_, fun h => ?_⟩
  · have hhead := congrArg List.head? h
    cases hhead
  · have hhead := congrArg List.head? h
    cases hhead
  · have hhead := congrArg List.head? h
    cases hhead
  · rcases List.mem_append.1 h with h | h
    · rcases List.mem_append.1 h with h | h
      · exact absurd h (by decide)
      · exact absurd (mem_hexBytes h) (by decide)
    · exact absurd h (by decide)

theorem hashed_inj {d e : String} : "agd-" ++ d ++ ".sock" = "agd-" ++ e ++ ".sock" ↔ d = e := by
  constructor
  · intro h
    have htext := congrArg String.toList h
    simp only [String.toList_append] at htext
    exact String.toList_inj.1 (List.append_cancel_left (List.append_cancel_right htext))
  · rintro rfl
    rfl

theorem supervisorSock_ne_hashed (d : String) : "supervisor.sock" ≠ "agd-" ++ d ++ ".sock" := by
  intro h
  have htext := congrArg String.toList h
  simp only [String.toList_append] at htext
  cases (List.cons.inj htext).1

theorem longSocket_congr (h : cleanPath a = cleanPath b) : LongSocket a ↔ LongSocket b := by
  have hpath : joinPath a "supervisor.sock" = joinPath b "supervisor.sock" :=
    (joinPath_name_eq_iff isName_supervisorSock isName_supervisorSock).2 ⟨h, rfl⟩
  rw [LongSocket, LongSocket, hpath]

theorem supervisorSocket_of_short (host : Host) (h : ¬LongSocket a) :
    supervisorSocket host a = joinPath a "supervisor.sock" :=
  if_pos (Nat.lt_of_not_le h)

theorem supervisorSocket_of_long (host : Host) (h : LongSocket a) :
    supervisorSocket host a = joinPath host.tempDir ("agd-" ++ host.sum a ++ ".sock") :=
  if_neg (Nat.not_lt.2 h)

theorem LongSocket.ne_empty (h : LongSocket a) : a ≠ "" := by
  rintro rfl
  exact absurd h (by unfold LongSocket; decide +kernel)

/-- **When two sockets are one**: the directories are, or the hashes of two long paths. -/
theorem supervisorSocket_eq_iff (hsum : host.sum = sha1Digits) (ha : a ≠ "" → IsClean a)
    (hb : b ≠ "" → IsClean b) :
    supervisorSocket host a = supervisorSocket host b ↔
      cleanPath a = cleanPath b ∨ SameHash host a b := by
  by_cases hla : LongSocket a
  · by_cases hlb : LongSocket b
    · -- both are named after a hash
      have hhashed : ∀ d, IsName ("agd-" ++ host.sum d ++ ".sock").toList := fun d => by
        rw [hsum]
        exact isName_hashed d
      rw [supervisorSocket_of_long host hla, supervisorSocket_of_long host hlb,
        joinPath_name_eq_iff (hhashed a) (hhashed b), hashed_inj]
      constructor
      · rintro ⟨-, hsame⟩
        exact Or.inr ⟨hla, hlb, hsame⟩
      · rintro (hpath | ⟨-, -, hsame⟩)
        · rw [(ha hla.ne_empty).eq (hb hlb.ne_empty) hpath]
          exact ⟨rfl, rfl⟩
        · exact ⟨rfl, hsame⟩
    · rw [supervisorSocket_of_long host hla, supervisorSocket_of_short host hlb]
      refine iff_of_false (fun h => ?_) ?_
      · rw [hsum, joinPath_name_eq_iff (isName_hashed a) isName_supervisorSock] at h
        exact supervisorSock_ne_hashed _ h.2.symm
      · rintro (hpath | hsame)
        · exact hlb ((longSocket_congr hpath).1 hla)
        · exact hlb hsame.2.1
  · by_cases hlb : LongSocket b
    · rw [supervisorSocket_of_short host hla, supervisorSocket_of_long host hlb]
      refine iff_of_false (fun h => ?_) ?_
      · rw [hsum, joinPath_name_eq_iff isName_supervisorSock (isName_hashed b)] at h
        exact supervisorSock_ne_hashed _ h.2
      · rintro (hpath | hsame)
        · exact hla ((longSocket_congr hpath).2 hlb)
        · exact hla hsame.1
    · rw [supervisorSocket_of_short host hla, supervisorSocket_of_short host hlb,
        joinPath_name_eq_iff isName_supervisorSock isName_supervisorSock]
      constructor
      · rintro ⟨hpath, -⟩
        exact Or.inl hpath
      · rintro (hpath | hsame)
        · exact ⟨hpath, rfl⟩
        · exact absurd hsame.1 hla

/-- A socket is left alone by the requests for containers with other sockets, and by no others:
where it is the same, it is bound anew, or removed if the dial fails. -/
theorem Node.undisturbed_iff {s : Node} {h : ContainerHandle} {req : CreateContainerRequest}
    {raw : String} {now : Time} :
    s.Undisturbed host h req raw now ↔
      h.socket ≠ (s.runner.newHandle host req raw now).socket := by
  constructor
  · intro hleft hsame
    have hbound := hleft none
    have hgone := hleft (some (.dialUnix .notFound))
    simp only [Node.provision, ← hsame, AList.lookup_insert] at hbound
    simp only [Node.provision, ← hsame, AList.lookup_erase] at hgone
    cases hbound.trans hgone.symm
  · intro hne failure
    unfold Node.provision
    split
    · rfl
    · rfl
    · rfl
    · exact AList.lookup_erase_ne hne
    · exact AList.lookup_erase_ne hne
    · exact AList.lookup_insert_ne hne

/-- **A socket that is taken over**: once the connection of the handle is down, what is sent through
it reaches the supervisor of the other container. -/
theorem Node.link_of_taken {s : Node} {h : ContainerHandle} {req : CreateContainerRequest}
    {raw : String} {now : Time} (hdown : s.conns.lookup h.supervisor = none)
    (hsame : h.socket = (s.runner.newHandle host req raw now).socket) :
    (s.provision host req raw now none).1.link h = some s.runner.supervisors.length := by
  have hconns : (s.conns.erase s.runner.supervisors.length).lookup h.supervisor = none := by
    by_cases hn : h.supervisor = s.runner.supervisors.length
    · rw [hn, AList.lookup_erase]
    · rw [AList.lookup_erase_ne hn, hdown]
  simp only [Node.link, Node.provision, hconns]
  rw [hsame, AList.lookup_insert]

/-- **When sockets are apart.**  Clean directories that differ have different sockets if and only
if one of them has a short path or the first four bytes of their SHA-1 sums differ; and in every
state that a node reaches, the request for a container leaves the socket of a live container alone
if and only if the directories differ and so do the hashes of long paths. -/
theorem sockets_apart_iff (hsum : host.sum = sha1Digits) {nodeID : String} {l : List LinkLabel}
    {s : Node} (hs : exec (Node.step host) { runner := newRunner nodeID root } l = some s) :
    (∀ a b, IsClean a → IsClean b → a ≠ b →
      (supervisorSocket host a ≠ supervisorSocket host b ↔ ¬SameHash host a b)) ∧
      ∀ id h req raw now, s.runner.containers.get id = some h →
        (s.Undisturbed host h req raw now ↔
          cleanPath (joinPath root id) ≠ cleanPath (joinPath root (containerID req raw)) ∧
            ¬SameHash host (joinPath root id) (joinPath root (containerID req raw))) := by
  refine ⟨fun a b ha hb hne => not_congr ?_, fun id h req raw now hget => ?_⟩
  · rw [supervisorSocket_eq_iff hsum (fun _ => ha) fun _ => hb]
    exact or_iff_right fun hpath => hne (ha.eq hb hpath)
  · have hsockets : s.SocketsOk host root :=
      exec_invariant_of_step (fun _ _ _ hok hstep => hok.step hstep)
        ⟨rfl, fun id h hget => by cases hget⟩ hs
    have hnew : (s.runner.newHandle host req raw now).socket =
        supervisorSocket host (joinPath root (containerID req raw)) := by
      rw [Runner.newHandle_socket, Runner.newHandle_root, hsockets.root_eq]
    rw [Node.undisturbed_iff, hsockets.socket id h hget, hnew, Ne,
      supervisorSocket_eq_iff hsum (isClean_joinPath _ _) (isClean_joinPath _ _), not_or]

end

/-- A host with the hash function of the source. -/
def hashingHost : Host := { sum := sha1Digits }

/-- The root of a node with a long path. -/
def deepRoot : String := "/var/lib/agentd/clusters/production-eu-west-1/nodes/node-0001"

/-- The ids of two containers below that root. -/
def firstID : String := "ctr_00000000000073b3"

def secondID : String := "ctr_0000000000019759"

theorem isName_ids : IsName firstID.toList ∧ IsName secondID.toList := by
  decide

/-- A directory below that root is clean, and the path of a socket in it would be too long. -/
theorem deepRoot_join :
    (∀ {id : String}, id ≠ "" → IsClean (joinPath deepRoot id)) ∧
      LongSocket (joinPath deepRoot firstID) ∧ LongSocket (joinPath deepRoot secondID) := by
  refine ⟨fun h => isClean_joinPath _ _ (joinPath_ne_empty _ h), ?_⟩
  unfold LongSocket
  decide +kernel

/-- Containers with short paths, and one of them beside a long path. -/
theorem shortSockets_apart :
    supervisorSocket hashingHost "/var/agentd/ctr_1" ≠
        supervisorSocket hashingHost "/var/agentd/ctr_2" ∧
      supervisorSocket hashingHost "/var/agentd/ctr_1" ≠
        supervisorSocket hashingHost (joinPath deepRoot firstID) ∧
      ∃ s h, exec (Node.step hashingHost) { runner := newRunner "node-1" "/var/agentd" }
          [.provision { id := "ctr_1" } "" 1 none] = some s ∧
        s.runner.containers.get "ctr_1" = some h ∧
        s.Undisturbed hashingHost h { id := "ctr_2" } "" 2 := by
  have hclean : IsClean "/var/agentd/ctr_1" ∧ IsClean "/var/agentd/ctr_2" := by decide +kernel
  have hshort : ¬LongSocket "/var/agentd/ctr_1" := by
    unfold LongSocket
    decide +kernel
  have hnot : ∀ b, ¬SameHash hashingHost "/var/agentd/ctr_1" b := fun b hsame => hshort hsame.1
  have hdiffer : "/var/agentd/ctr_1" ≠ joinPath deepRoot firstID :=
    fun h => hshort (h ▸ deepRoot_join.2.1)
  obtain ⟨s, hs⟩ : ∃ s, exec (Node.step hashingHost) { runner := newRunner "node-1" "/var/agentd" }
      [.provision { id := "ctr_1" } "" 1 none] = some s := ⟨_, rfl⟩
  obtain ⟨h, hget⟩ : ∃ h, s.runner.containers.get "ctr_1" = some h := by
    obtain rfl := Option.some.inj hs
    exact ⟨_, rfl⟩
  obtain ⟨hsockets, hnode⟩ := sockets_apart_iff rfl hs
  refine ⟨(hsockets _ _ hclean.1 hclean.2 (by decide)).2 (hnot _),
    (hsockets _ _ hclean.1 (deepRoot_join.1 (by decide)) hdiffer).2 (hnot _), s, h, hs, hget,
    (hnode "ctr_1" h _ _ _ hget).2 ⟨by decide +kernel, ?_⟩⟩
  rw [show joinPath "/var/agentd" "ctr_1" = "/var/agentd/ctr_1" by decide +kernel]
  exact hnot _

/-- The directories of the two containers have the same four bytes. -/
theorem sha1Digits_collide :
    sha1Digits (joinPath deepRoot firstID) = sha1Digits (joinPath deepRoot secondID) := by
  decide +kernel

/-- **Two containers on one socket.**  The directories are clean and differ, and their sockets are
the same.  When the second container is provisioned, its supervisor listens on the socket of the
first, and what is sent through the handle of the first reaches the supervisor of the second. -/
theorem hashedSockets_collide :
    IsClean (joinPath deepRoot firstID) ∧ IsClean (joinPath deepRoot secondID) ∧
      joinPath deepRoot firstID ≠ joinPath deepRoot secondID ∧
      supervisorSocket hashingHost (joinPath deepRoot firstID) =
        supervisorSocket hashingHost (joinPath deepRoot secondID) ∧
      ∃ s h, exec (Node.step hashingHost) { runner := newRunner "node-1" deepRoot }
          [.provision { id := firstID } "" 1 none, .provision { id := secondID } "" 2 none] =
            some s ∧
        s.runner.containers.get firstID = some h ∧ h.supervisor = 0 ∧ s.link h = some 1 := by
  obtain ⟨hclean, hlong, hlong'⟩ := deepRoot_join
  have hfirst := @hclean firstID (by decide)
  have hsecond := @hclean secondID (by decide)
  have hsame : supervisorSocket hashingHost (joinPath deepRoot firstID) =
      supervisorSocket hashingHost (joinPath deepRoot secondID) :=
    (supervisorSocket_eq_iff rfl (fun _ => hfirst) fun _ => hsecond).2
      (Or.inr ⟨hlong, hlong', sha1Digits_collide⟩)
  let s₀ : Node := { runner := newRunner "node-1" deepRoot }
  let s₁ : Node := (s₀.provision hashingHost { id := firstID } "" 1 none).1
  let h := s₀.runner.newHandle hashingHost { id := firstID } "" 1
  have htaken : h.socket = (s₁.runner.newHandle hashingHost { id := secondID } "" 2).socket := by
    rw [Runner.newHandle_socket, Runner.newHandle_root, Runner.newHandle_socket,
      Runner.newHandle_root]
    exact hsame
  have hlink := @Node.link_of_taken hashingHost s₁ h { id := secondID } "" 2 rfl htaken
  refine ⟨hfirst, hsecond, fun heq => ?_, hsame, _, h, rfl, rfl, rfl, hlink⟩
  exact absurd ((joinPath_name_eq_iff isName_ids.1 isName_ids.2).1 heq).2 (by decide)

end NodeRuntime
end Agentd

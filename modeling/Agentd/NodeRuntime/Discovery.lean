/-
# The list of node endpoints

`ParseNodeEndpoints` (`runtime/discovery.go`) reads the addresses of the nodes from one text,
`id=addr` parts with commas between them, and `NodeIDs` lists the nodes.

A part is trimmed, cut at its first `=`, and its two pieces are trimmed again; a blank part is
skipped, and a part without `=` refuses the whole list.  `Rendered` has the texts of a map: its
pairs in any order, white space wherever it is trimmed, and any blank parts.
`parseNodeEndpoints_rendered` says that each of them is read back as the map.
-/

import Agentd.Control.Plan
import Agentd.Data.Overlay
import Agentd.Data.Text
import Agentd.Encoding.Digest
import Mathlib.Data.List.Lex
import Mathlib.Data.List.ReduceOption
import Mathlib.Data.List.Sort

namespace Agentd
namespace NodeRuntime

open Control Encoding

/-! ### Reading the list -/

/-- `strings.TrimSpace`. -/
def trimSpace (s : List Char) : List Char := trim isSpace s

/-- One part of the list, in the loop of `ParseNodeEndpoints`. -/
def parsePart (out : StringMap) (part : List Char) : Except Err StringMap :=
  if trimSpace part = [] then .ok out
  else
    match cut '=' (trimSpace part) with
    | none =>
        .error (.other ("invalid node endpoint " ++ (String.ofList (trimSpace part)).quote ++
          ", want id=addr"))
    | some (id, addr) =>
        .ok (out.insert (String.ofList (trimSpace id)) (String.ofList (trimSpace addr)))

/-- `ParseNodeEndpoints`. -/
def parseNodeEndpoints (spec : String) : Except Err StringMap :=
  if spec = "" then .ok ∅ else (spec.toList.splitOn ',').foldlM parsePart ∅

/-- What strings are compared by: their bytes. -/
def bytes (s : String) : List ℕ := (utf8 s).map UInt8.toNat

/-- `sort.Strings`. -/
def sortStrings (l : List String) : List String := l.insertionSort fun s t => bytes s ≤ bytes t

/-- `NodeIDs`, with the pairs in the order in which the loop meets them. -/
def nodeIDs (order : List (String × String)) : List String := sortStrings (order.map Prod.fst)

/-! ### The texts of a map -/

/-- White space, or none. -/
def Space (s : List Char) : Prop := ∀ c ∈ s, isSpace c

instance (s : List Char) : Decidable (Space s) := List.decidableBAll _ s

/-- A part of the list that is blank, or that has a pair with white space around its pieces. -/
inductive RenderedPart : Option (String × String) → List Char → Prop
  | blank {s : List Char} (h : Space s) : RenderedPart none s
  | pair {s₁ s₂ s₃ s₄ : List Char} (h₁ : Space s₁) (h₂ : Space s₂) (h₃ : Space s₃) (h₄ : Space s₄)
      (id addr : String) :
      RenderedPart (some (id, addr))
        (s₁ ++ id.toList ++ s₂ ++ '=' :: (s₃ ++ addr.toList ++ s₄))

/-- The text has the pairs of the map, in some order, with commas between them and with blank
parts anywhere. -/
def Rendered (m : StringMap) (spec : String) : Prop :=
  ∃ items parts, List.Forall₂ RenderedPart items parts ∧ m.Ranges items.reduceOption ∧
    spec.toList = [','].intercalate parts

/-- A pair that can be written into the list. -/
structure PlainPair (id addr : String) : Prop where
  id_comma : ',' ∉ id.toList
  id_equals : '=' ∉ id.toList
  addr_comma : ',' ∉ addr.toList
  id_trimmed : Trimmed isSpace id.toList
  addr_trimmed : Trimmed isSpace addr.toList

/-- A map whose pairs can be written into the list. -/
def PlainMap (m : StringMap) : Prop := ∀ id addr, m.lookup id = some addr → PlainPair id addr

section

variable {s : List Char} {id addr : String}

theorem Space.trimSpace_append (h : Space s) {s' : List Char} (h' : Space s') (l : List Char) :
    trimSpace (s ++ l ++ s') = trimSpace l := trim_append_append h h'

theorem Space.not_mem (h : Space s) {c : Char} (hc : isSpace c = false) : c ∉ s := by
  intro hmem
  have hspace := h c hmem
  rw [hc] at hspace
  cases hspace

theorem parsePart_space (h : Space s) (out : StringMap) : parsePart out s = .ok out := by
  have hnil : trimSpace s = [] := by
    rw [trimSpace, trim, List.dropWhile_eq_nil_iff.2 h]
    rfl
  exact if_pos hnil

/-- **A part with a pair is read back.** -/
theorem parsePart_pair (hpair : PlainPair id addr) {s₁ s₂ s₃ s₄ : List Char} (h₁ : Space s₁)
    (h₂ : Space s₂) (h₃ : Space s₃) (h₄ : Space s₄) (out : StringMap) :
    parsePart out (s₁ ++ id.toList ++ s₂ ++ '=' :: (s₃ ++ addr.toList ++ s₄)) =
      .ok (out.insert id addr) := by
  have hequals : '=' ∉ (s₁ ++ id.toList ++ s₂).dropWhile isSpace := by
    intro hmem
    have hmem := (List.dropWhile_sublist _).mem hmem
    rw [List.mem_append, List.mem_append] at hmem
    obtain (hmem | hmem) | hmem := hmem
    · exact h₁.not_mem (by decide) hmem
    · exact hpair.id_equals hmem
    · exact h₂.not_mem (by decide) hmem
  have hid : trimSpace ((s₁ ++ id.toList ++ s₂).dropWhile isSpace) = id.toList := by
    rw [trimSpace, trim_dropWhile]
    exact (h₁.trimSpace_append h₂ _).trans hpair.id_trimmed.trim_eq
  have haddr : trimSpace ((s₃ ++ addr.toList ++ s₄).rdropWhile isSpace) = addr.toList := by
    rw [trimSpace, trim_rdropWhile]
    exact (h₃.trimSpace_append h₄ _).trans hpair.addr_trimmed.trim_eq
  have hpart : trimSpace (s₁ ++ id.toList ++ s₂ ++ '=' :: (s₃ ++ addr.toList ++ s₄)) =
      (s₁ ++ id.toList ++ s₂).dropWhile isSpace ++
        '=' :: (s₃ ++ addr.toList ++ s₄).rdropWhile isSpace := trim_append_cons (by decide)
  unfold parsePart
  rw [hpart, if_neg (by simp), cut_append_cons hequals]
  show Except.ok (out.insert (String.ofList (trimSpace _)) (String.ofList (trimSpace _))) = _
  rw [hid, haddr, String.ofList_toList, String.ofList_toList]

end

section

variable {m : StringMap} {spec : String} {items : List (Option (String × String))}
  {parts : List (List Char)}

/-- **The loop over the parts** assigns the pairs that are written in them. -/
theorem foldlM_parsePart (h : List.Forall₂ RenderedPart items parts)
    (hplain : ∀ kv ∈ items.reduceOption, PlainPair kv.1 kv.2) (out : StringMap) :
    parts.foldlM parsePart out = .ok (out.assign items.reduceOption) := by
  induction h generalizing out with
  | nil => rfl
  | cons hpart _ ih =>
      rw [List.foldlM_cons]
      cases hpart with
      | blank hspace =>
          rw [parsePart_space hspace]
          exact ih hplain out
      | pair h₁ h₂ h₃ h₄ id addr =>
          rw [List.reduceOption_cons_of_some] at hplain ⊢
          rw [parsePart_pair (hplain (id, addr) List.mem_cons_self) h₁ h₂ h₃ h₄]
          exact ih (fun kv hkv => hplain kv (List.mem_cons_of_mem _ hkv)) _

theorem comma_notMem_part (h : List.Forall₂ RenderedPart items parts)
    (hplain : ∀ kv ∈ items.reduceOption, PlainPair kv.1 kv.2) : ∀ part ∈ parts, ',' ∉ part := by
  induction h with
  | nil => simp
  | cons hpart _ ih =>
      rw [List.forall_mem_cons]
      cases hpart with
      | blank hspace => exact ⟨hspace.not_mem (by decide), ih hplain⟩
      | pair h₁ h₂ h₃ h₄ id addr =>
          rw [List.reduceOption_cons_of_some, List.forall_mem_cons] at hplain
          refine ⟨?_, ih hplain.2⟩
          have hpair : PlainPair id addr := hplain.1
          simp [h₁.not_mem (c := ',') (by decide), h₂.not_mem (c := ',') (by decide),
            h₃.not_mem (c := ',') (by decide), h₄.not_mem (c := ',') (by decide),
            hpair.id_comma, hpair.addr_comma]

theorem parseNodeEndpoints_eq (spec : String) :
    parseNodeEndpoints spec = (spec.toList.splitOn ',').foldlM parsePart ∅ := by
  unfold parseNodeEndpoints
  split_ifs with hspec
  · rw [hspec]
    rfl
  · rfl

theorem Rendered.parse_eq (h : Rendered m spec) (hm : PlainMap m) :
    ∃ order, m.Ranges order ∧ parseNodeEndpoints spec = .ok ((∅ : StringMap).assign order) := by
  obtain ⟨items, parts, hparts, hranges, hspec⟩ := h
  have hplain : ∀ kv ∈ items.reduceOption, PlainPair kv.1 kv.2 := fun kv hkv =>
    hm kv.1 kv.2 (hranges.mem_iff.1 hkv)
  refine ⟨items.reduceOption, hranges, ?_⟩
  rw [parseNodeEndpoints_eq, hspec]
  by_cases hnil : parts = []
  · -- no part at all is the empty text, which is read as a blank part
    subst hnil
    cases hparts
    rfl
  · rw [List.splitOn_intercalate ',' (comma_notMem_part hparts hplain) hnil]
    exact foldlM_parsePart hparts hplain ∅

end

/-! ### The list of the nodes -/

theorem bytes_injective : Function.Injective bytes := by
  intro s t h
  exact utf8_injective (List.map_injective_iff.2 (fun _ _ => UInt8.toNat_inj.1) h)

instance : Std.Total fun s t : String => bytes s ≤ bytes t :=
  ⟨fun s t => le_total (bytes s) (bytes t)⟩

instance : IsTrans String fun s t => bytes s ≤ bytes t :=
  ⟨fun _ _ _ => le_trans⟩

theorem mem_sortStrings {l : List String} {s : String} : s ∈ sortStrings l ↔ s ∈ l :=
  (List.perm_insertionSort _ l).mem_iff

theorem sortStrings_strict {l : List String} (h : l.Nodup) :
    (sortStrings l).Pairwise fun s t => bytes s < bytes t := by
  have hsorted : (sortStrings l).Pairwise fun s t => bytes s ≤ bytes t :=
    List.pairwise_insertionSort _ l
  have hnodup : (sortStrings l).Nodup := (List.perm_insertionSort _ l).nodup_iff.2 h
  refine hsorted.imp₂ (fun s t hle hne => ?_) hnodup
  exact lt_of_le_of_ne hle fun heq => hne (bytes_injective heq)

section

variable {m : StringMap} {order : List (String × String)}

theorem nodeIDs_strict (h : m.Ranges order) :
    (nodeIDs order).Pairwise fun s t => bytes s < bytes t := sortStrings_strict h.nodup

theorem mem_nodeIDs (h : m.Ranges order) (id : String) :
    id ∈ nodeIDs order ↔ ∃ addr, m.lookup id = some addr := by
  rw [nodeIDs, mem_sortStrings, List.mem_map]
  constructor
  · rintro ⟨kv, hkv, rfl⟩
    exact ⟨kv.2, h.mem_iff.1 hkv⟩
  · rintro ⟨addr, haddr⟩
    exact ⟨(id, addr), h.mem_iff.2 haddr, rfl⟩

end

/-! ### The round trip -/

/-- **Every text of a map is read back as the map**, and the nodes of what was read are the keys of
the map, in strictly increasing order, in whatever order it is visited. -/
theorem parseNodeEndpoints_rendered {m : StringMap} {spec : String} (hm : PlainMap m)
    (hspec : Rendered m spec) :
    ∃ out, parseNodeEndpoints spec = .ok out ∧ (∀ id, out.lookup id = m.lookup id) ∧
      ∀ order, out.Ranges order →
        ((nodeIDs order).Pairwise fun s t => bytes s < bytes t) ∧
        ∀ id, id ∈ nodeIDs order ↔ ∃ addr, m.lookup id = some addr := by
  obtain ⟨order, hranges, hparse⟩ := hspec.parse_eq hm
  have hlookup : ∀ id, ((∅ : StringMap).assign order).lookup id = m.lookup id := by
    intro id
    rw [GoMap.lookup_assign_of_ranges hranges, AList.lookup_empty, Option.or_none]
  refine ⟨_, hparse, hlookup, fun order' horder => ⟨nodeIDs_strict horder, fun id => ?_⟩⟩
  rw [mem_nodeIDs horder, hlookup]

/-- Two nodes, one of them with an address that has a `=`. -/
def twoEndpoints : StringMap :=
  ((∅ : StringMap).insert "node-1" "http://10.0.0.1:9000/?zone=a").insert "node-0" "10.0.0.2:9000"

theorem twoEndpoints_plain : PlainMap twoEndpoints := by
  intro id addr h
  have hmem : (id, addr) ∈
      [("node-0", "10.0.0.2:9000"), ("node-1", "http://10.0.0.1:9000/?zone=a")] :=
    twoEndpoints.ranges_pairs.mem_iff.2 h
  rw [List.mem_cons, List.mem_singleton] at hmem
  obtain ⟨rfl, rfl⟩ | ⟨rfl, rfl⟩ := hmem.imp Prod.mk.inj Prod.mk.inj
  · exact ⟨by decide, by decide, by decide, by decide, by decide⟩
  · exact ⟨by decide, by decide, by decide, by decide, by decide⟩

/-- They are written with white space, with a blank part and not in the order of the map. -/
theorem twoEndpoints_rendered :
    Rendered twoEndpoints " node-1 =http://10.0.0.1:9000/?zone=a, ,node-0= 10.0.0.2:9000" := by
  have h₁ : RenderedPart (some ("node-1", "http://10.0.0.1:9000/?zone=a"))
      " node-1 =http://10.0.0.1:9000/?zone=a".toList :=
    @RenderedPart.pair [' '] [' '] [] [] (by decide) (by decide) (by decide) (by decide) _ _
  have h₂ : RenderedPart none " ".toList := .blank (by decide)
  have h₃ : RenderedPart (some ("node-0", "10.0.0.2:9000")) "node-0= 10.0.0.2:9000".toList :=
    @RenderedPart.pair [] [] [' '] [] (by decide) (by decide) (by decide) (by decide) _ _
  refine ⟨_, _, .cons h₁ (.cons h₂ (.cons h₃ .nil)), ?_, by decide⟩
  exact List.Perm.swap _ _ _

theorem twoEndpoints_readBack :
    ∃ out,
      parseNodeEndpoints " node-1 =http://10.0.0.1:9000/?zone=a, ,node-0= 10.0.0.2:9000" =
        .ok out ∧
      (∀ id, out.lookup id = twoEndpoints.lookup id) ∧
      ∀ order, out.Ranges order →
        ((nodeIDs order).Pairwise fun s t => bytes s < bytes t) ∧
        ∀ id, id ∈ nodeIDs order ↔ ∃ addr, twoEndpoints.lookup id = some addr :=
  parseNodeEndpoints_rendered twoEndpoints_plain twoEndpoints_rendered

end NodeRuntime
end Agentd

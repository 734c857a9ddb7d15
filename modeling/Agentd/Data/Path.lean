/-
# Lexical file paths

The functions `Clean` and `Join` of Go's `path/filepath`, for paths with `/` as the
separator.  They look at the text only: links are not followed and the file system is
not asked.

`Path` is what a clean path is: whether it starts at the root, how many `..` it starts
with, and the names after them.  That a rooted path starts with no `..` and that a name is
neither empty nor `.` nor `..` and has no separator is part of the type.  `clean` reads a
text element by element, `render` writes a path down, and `clean_render` says that a path
is what its text says, so `Clean` is `render` after `clean`.

`p.go r` is the path that `r` leads to from `p`; the elements of a text lead where its
relative path leads (`foldl_push`), which makes the result of a `Join` a matter of names
(`clean_join`).  A path lies `Within` another when its names begin with those of the other;
`go_within_iff` says when a relative path does not leave the tree that it starts from.
-/

import Mathlib.Data.List.Infix
import Mathlib.Logic.Function.Iterate

namespace Agentd
namespace Filepath

/-- A name: an element of a path that leads one directory down. -/
def IsName (c : List Char) : Prop := c ≠ [] ∧ c ≠ ['.'] ∧ c ≠ ['.', '.'] ∧ '/' ∉ c

instance : DecidablePred IsName := fun c =>
  inferInstanceAs (Decidable (c ≠ [] ∧ c ≠ ['.'] ∧ c ≠ ['.', '.'] ∧ '/' ∉ c))

/-- A clean path. -/
@[ext] structure Path where
  rooted : Bool
  ups : ℕ
  names : List (List Char)
  ups_of_rooted : rooted = true → ups = 0
  isName : ∀ c ∈ names, IsName c

/-- The root directory, or the current one. -/
def Path.base (rooted : Bool) : Path := ⟨rooted, 0, [], fun _ => rfl, fun c h => by cases h⟩

namespace Path

instance : DecidableEq Path := fun p q =>
  decidable_of_iff (p.rooted = q.rooted ∧ p.ups = q.ups ∧ p.names = q.names) Path.ext_iff.symm

/-- The element `..`: the last name goes; above the root there is nothing. -/
def up (p : Path) : Path :=
  if p.names ≠ [] then
    { p with
      names := p.names.dropLast
      isName := fun c hc => p.isName c (List.mem_of_mem_dropLast hc) }
  else if h : p.rooted = true then p
  else { p with ups := p.ups + 1, ups_of_rooted := fun hr => absurd hr h }

/-- Names below a path. -/
def below (p : Path) (names : List (List Char)) (h : ∀ c ∈ names, IsName c) : Path :=
  { p with
    names := p.names ++ names
    isName := fun c hc => (List.mem_append.1 hc).elim (p.isName c) (h c) }

/-- The next element of a text: a name, `..`, or an empty element or `.`, which change
nothing. -/
def push (p : Path) (c : List Char) : Path :=
  if h : IsName c then p.below [c] fun _ hd => List.mem_singleton.1 hd ▸ h
  else if c = ['.', '.'] then p.up
  else p

/-- The text of a path. -/
def render (p : Path) : List Char :=
  if p.rooted then '/' :: ['/'].intercalate p.names
  else
    match List.replicate p.ups ['.', '.'] ++ p.names with
    | [] => ['.']
    | parts => ['/'].intercalate parts

/-- The path that the relative path `r` leads to from `p`. -/
def go (p r : Path) : Path := (up^[r.ups] p).below r.names r.isName

/-- The path lies in the tree of the other one: it is that path, or one below it. -/
def Within (p q : Path) : Prop := p.rooted = q.rooted ∧ p.ups = q.ups ∧ q.names <+: p.names

/-- The path lies strictly below the other one. -/
def Inside (p q : Path) : Prop := p.Within q ∧ p ≠ q

instance (p q : Path) : Decidable (p.Within q) :=
  inferInstanceAs (Decidable (p.rooted = q.rooted ∧ p.ups = q.ups ∧ q.names <+: p.names))

instance (p q : Path) : Decidable (p.Inside q) := inferInstanceAs (Decidable (_ ∧ _))

end Path

/-- The elements of a text. -/
def elements (s : List Char) : List (List Char) := s.splitOn '/'

/-- The path that a text says. -/
def clean (s : List Char) : Path := (elements s).foldl Path.push (.base (s.head? = some '/'))

/-- The relative path that a text says, whether it starts with a separator or not. -/
def relative (s : List Char) : Path := (elements s).foldl Path.push (.base false)

/-- `filepath.Join`: empty elements at the start are left out, the rest is joined and
cleaned. -/
def join : List (List Char) → List Char
  | [] => []
  | e :: es => if e = [] then join es else (clean (['/'].intercalate (e :: es))).render

namespace Path

variable {p q r : Path} {c : List Char}

@[simp] theorem below_names (p : Path) (ns : List (List Char)) (h : ∀ c ∈ ns, IsName c) :
    (p.below ns h).names = p.names ++ ns := rfl

theorem push_of_isName (p : Path) (h : IsName c) :
    p.push c = p.below [c] fun _ hd => List.mem_singleton.1 hd ▸ h := by
  rw [push, dif_pos h]

/-- A path with names loses the last of them. -/
theorem up_of_ne_nil (h : p.names ≠ []) :
    p.up.rooted = p.rooted ∧ p.up.ups = p.ups ∧ p.up.names = p.names.dropLast := by
  rw [up, if_pos h]
  exact ⟨rfl, rfl, rfl⟩

@[simp] theorem up_rooted (p : Path) : p.up.rooted = p.rooted := by
  unfold up
  split_ifs <;> rfl

@[simp] theorem push_rooted (p : Path) (c : List Char) : (p.push c).rooted = p.rooted := by
  unfold push
  split_ifs
  · rfl
  · exact up_rooted p
  · rfl

theorem foldl_push_rooted (cs : List (List Char)) (p : Path) :
    (cs.foldl push p).rooted = p.rooted := by
  induction cs generalizing p with
  | nil => rfl
  | cons c cs ih => rw [List.foldl_cons, ih, push_rooted]

@[simp] theorem go_base (p : Path) : p.go (base false) = p := by
  apply Path.ext
  · rfl
  · rfl
  · exact List.append_nil _

/-- A relative path without names counts one more `..`. -/
theorem up_of_nil (hr : r.rooted = false) (h : r.names = []) :
    r.up.ups = r.ups + 1 ∧ r.up.names = [] := by
  rw [up, if_neg (not_not.2 h), dif_neg (by rw [hr]; exact Bool.false_ne_true)]
  exact ⟨rfl, h⟩

/-- A relative path without names leads up only. -/
theorem go_of_nil (p : Path) (h : r.names = []) : p.go r = up^[r.ups] p := by
  apply Path.ext
  · rfl
  · rfl
  · show (up^[r.ups] p).names ++ r.names = _
    rw [h, List.append_nil]

/-- One more element leads from where the others lead. -/
theorem go_push (p : Path) (hr : r.rooted = false) (c : List Char) :
    p.go (r.push c) = (p.go r).push c := by
  by_cases hc : IsName c
  · rw [push_of_isName _ hc, push_of_isName _ hc]
    apply Path.ext
    · rfl
    · rfl
    · exact (List.append_assoc _ _ _).symm
  · by_cases hdots : c = ['.', '.']
    · have hpush : ∀ q : Path, q.push c = q.up := fun q => by rw [push, dif_neg hc, if_pos hdots]
      rw [hpush, hpush]
      by_cases hnames : r.names = []
      · obtain ⟨hups, hnil⟩ := up_of_nil hr hnames
        rw [go_of_nil p hnil, go_of_nil p hnames, hups, Function.iterate_succ_apply']
      · obtain ⟨-, hups, hlast⟩ := up_of_ne_nil hnames
        have hne : (p.go r).names ≠ [] := List.append_ne_nil_of_right_ne_nil _ hnames
        obtain ⟨hrooted', hups', hlast'⟩ := up_of_ne_nil hne
        apply Path.ext
        · rw [hrooted', go, go, hups]
          rfl
        · rw [hups', go, go, hups]
          rfl
        · rw [hlast', go, go, below_names, below_names, hups, hlast,
            List.dropLast_append_of_ne_nil hnames]
    · have hpush : ∀ q : Path, q.push c = q := fun q => by rw [push, dif_neg hc, if_neg hdots]
      rw [hpush, hpush]

/-- **The elements of a text lead where its relative path leads.** -/
theorem foldl_push (cs : List (List Char)) (p : Path) :
    cs.foldl push p = p.go (cs.foldl push (base false)) := by
  have hall : ∀ r : Path, r.rooted = false → cs.foldl push (p.go r) = p.go (cs.foldl push r) := by
    induction cs with
    | nil => exact fun _ _ => rfl
    | cons c cs ih =>
        intro r hr
        rw [List.foldl_cons, List.foldl_cons, ← go_push p hr]
        exact ih _ ((push_rooted r c).trans hr)
  have hbase := hall (base false) rfl
  rwa [go_base] at hbase

/-- Names that are pushed come below. -/
theorem foldl_push_names (cs : List (List Char)) (h : ∀ c ∈ cs, IsName c) (p : Path) :
    cs.foldl push p = p.below cs h := by
  induction cs generalizing p with
  | nil =>
      apply Path.ext
      · rfl
      · rfl
      · exact (List.append_nil _).symm
  | cons c cs ih =>
      have hc := h c (List.mem_cons_self ..)
      rw [List.foldl_cons, push_of_isName p hc, ih fun d hd => h d (List.mem_cons_of_mem c hd)]
      apply Path.ext
      · rfl
      · rfl
      · exact List.append_assoc p.names [c] cs

/-- So many `..` from the current directory. -/
theorem foldl_push_dots (n : ℕ) :
    ((List.replicate n ['.', '.']).foldl push (base false)).ups = n ∧
      ((List.replicate n ['.', '.']).foldl push (base false)).names = [] := by
  induction n with
  | zero => exact ⟨rfl, rfl⟩
  | succ n ih =>
      obtain ⟨hups, hnames⟩ := ih
      have hdots : ¬IsName ['.', '.'] := by decide
      rw [List.replicate_succ', List.foldl_append, List.foldl_cons, List.foldl_nil, push,
        dif_neg hdots, if_pos rfl]
      have hr := foldl_push_rooted (List.replicate n ['.', '.']) (base false)
      obtain ⟨hups', hnames'⟩ := up_of_nil hr hnames
      exact ⟨by rw [hups', hups], hnames'⟩

end Path

open Agentd.Filepath.Path

/-- The elements of a text with a separator in it. -/
theorem elements_append_cons (a b : List Char) :
    elements (a ++ '/' :: b) = elements a ++ elements b :=
  List.splitOnP_append_cons a b (beq_self_eq_true '/')

/-- The elements of a text that was joined. -/
theorem elements_intercalate {cs : List (List Char)} (h : ∀ c ∈ cs, '/' ∉ c) (hne : cs ≠ []) :
    elements (['/'].intercalate cs) = cs :=
  List.splitOn_intercalate '/' h hne

/-- The elements of a relative path. -/
theorem foldl_push_parts {p : Path} (hr : p.rooted = false) :
    (List.replicate p.ups ['.', '.'] ++ p.names).foldl push (base false) = p := by
  obtain ⟨hups, hnames⟩ := foldl_push_dots p.ups
  rw [List.foldl_append, foldl_push_names _ p.isName]
  apply Path.ext
  · exact (foldl_push_rooted _ _).trans hr.symm
  · exact hups
  · rw [below_names, hnames, List.nil_append]

/-- What a text of elements starts with. -/
theorem head?_intercalate {c : List Char} (cs : List (List Char)) (h : c ≠ []) :
    (['/'].intercalate (c :: cs)).head? = c.head? := by
  obtain ⟨x, xs, rfl⟩ := List.exists_cons_of_ne_nil h
  cases cs with
  | nil => rfl
  | cons d ds => rfl

/-- The elements of a path's text are `..` and names. -/
theorem isPart {p : Path} {c : List Char} (h : c ∈ List.replicate p.ups ['.', '.'] ++ p.names) :
    c ≠ [] ∧ '/' ∉ c := by
  rcases List.mem_append.1 h with hc | hc
  · rw [List.eq_of_mem_replicate hc]
    decide
  · exact ⟨(p.isName c hc).1, (p.isName c hc).2.2.2⟩

/-- **A path is what its text says.** -/
theorem clean_render (p : Path) : clean p.render = p := by
  unfold render
  cases hr : p.rooted with
  | true =>
      have hbase : p.names.foldl push (base true) = p := by
        rw [foldl_push_names _ p.isName]
        exact Path.ext hr.symm (p.ups_of_rooted hr).symm rfl
      have helements : elements ('/' :: ['/'].intercalate p.names) =
          [] :: elements (['/'].intercalate p.names) := elements_append_cons [] _
      rw [if_pos rfl, clean, helements]
      by_cases hnil : p.names = []
      · rw [hnil] at hbase ⊢
        exact hbase
      · rw [elements_intercalate (fun c hc => (p.isName c hc).2.2.2) hnil]
        exact hbase
  | false =>
      rw [if_neg Bool.false_ne_true]
      have hparts := foldl_push_parts hr
      have hpart := @isPart p
      split
      next hnil =>
        rw [hnil] at hparts
        exact hparts
      next parts hne =>
        obtain ⟨c, cs, hcons⟩ := List.exists_cons_of_ne_nil hne
        rw [hcons] at hparts hpart ⊢
        obtain ⟨hc, hsep⟩ := hpart (List.mem_cons_self ..)
        rw [clean, elements_intercalate (fun d hd => (hpart hd).2) (List.cons_ne_nil c cs),
          head?_intercalate cs hc]
        have hhead : c.head? ≠ some '/' := fun h => hsep (List.mem_of_head? h)
        rw [decide_eq_false hhead]
        exact hparts

/-- The clean path of a text leads where its relative path leads from the start. -/
theorem clean_eq_go (s : List Char) : clean s = (base (s.head? = some '/')).go (relative s) :=
  foldl_push (elements s) _

/-- **A join of two texts** leads from the first where the relative path of the second leads;
when the first is empty, it is the second. -/
theorem clean_join (a b : List Char) :
    clean (join [a, b]) = if a = [] then clean b else (clean a).go (relative b) := by
  by_cases ha : a = []
  · rw [if_pos ha, join, if_pos ha, join]
    split_ifs with hb
    · rw [hb]
      rfl
    · rw [clean_render]
      simp [List.intercalate]
  · have hhead : (a ++ '/' :: b).head? = a.head? := by
      obtain ⟨x, xs, rfl⟩ := List.exists_cons_of_ne_nil ha
      rfl
    have htext : ['/'].intercalate [a, b] = a ++ '/' :: b := by
      simp [List.intercalate]
    rw [if_neg ha, join, if_neg ha, clean_render, htext, clean, hhead, elements_append_cons,
      List.foldl_append, foldl_push (elements b)]
    rfl

/-- A text of a path is not empty. -/
theorem render_ne_nil (p : Path) : p.render ≠ [] := by
  intro h
  have hp := clean_render p
  rw [h] at hp
  rw [← hp] at h
  exact absurd h (by decide)

namespace Path

variable {p q r r' : Path}

theorem Within.refl (p : Path) : p.Within p := ⟨rfl, rfl, List.prefix_rfl⟩

theorem Within.trans (hpq : p.Within q) (hqr : q.Within r) : p.Within r :=
  ⟨hpq.1.trans hqr.1, hpq.2.1.trans hqr.2.1, hqr.2.2.trans hpq.2.2⟩

/-- What lies within a path that is inside another is inside it. -/
theorem Within.inside (hpq : p.Within q) (hqr : q.Inside r) : p.Inside r := by
  refine ⟨hpq.trans hqr.1, ?_⟩
  rintro rfl
  have hnames : p.names = q.names :=
    hqr.1.2.2.eq_of_length_le hpq.2.2.length_le
  exact hqr.2 (Path.ext hpq.1.symm hpq.2.1.symm hnames.symm)

/-- A path without `..` leads down: its names come after those there are. -/
theorem go_of_ups_eq_zero (p : Path) (h : r.ups = 0) : p.go r = p.below r.names r.isName := by
  rw [go, h]
  rfl

/-- A path without `..` leads to the tree of the start. -/
theorem go_within (p : Path) (h : r.ups = 0) : (p.go r).Within p := by
  rw [go_of_ups_eq_zero p h]
  exact ⟨rfl, rfl, List.prefix_append _ _⟩

/-- With a name in it, it leads strictly below the start. -/
theorem go_inside (p : Path) (h : r.ups = 0) (hne : r.names ≠ []) : (p.go r).Inside p := by
  refine ⟨go_within p h, fun heq => hne ?_⟩
  have hnames := congrArg Path.names heq
  rw [go_of_ups_eq_zero p h, below_names] at hnames
  exact List.append_right_eq_self.1 hnames

/-- **Two trees that share a path** are one inside the other. -/
theorem names_of_within_go (h : r.ups = 0) (h' : r'.ups = 0) (hq : q.Within (p.go r))
    (hq' : q.Within (p.go r')) : r.names <+: r'.names ∨ r'.names <+: r.names := by
  rw [go_of_ups_eq_zero p h] at hq
  rw [go_of_ups_eq_zero p h'] at hq'
  rcases List.prefix_or_prefix_of_prefix hq.2.2 hq'.2.2 with hle | hle
  · exact Or.inl ((List.prefix_append_right_inj _).1 hle)
  · exact Or.inr ((List.prefix_append_right_inj _).1 hle)

/-- **Many times up**: a name goes each time; where none is left, a relative path counts the rest
as `..` and a rooted one stays. -/
theorem iterate_up (p : Path) (n : ℕ) :
    (up^[n] p).rooted = p.rooted ∧
      (up^[n] p).ups = (if p.rooted then 0 else p.ups + (n - p.names.length)) ∧
      (up^[n] p).names = p.names.take (p.names.length - n) := by
  induction n with
  | zero =>
      refine ⟨rfl, ?_, ?_⟩
      · split_ifs with hr
        · exact p.ups_of_rooted hr
        · simp
      · simp
  | succ n ih =>
      obtain ⟨hrooted, hups, hnames⟩ := ih
      rw [Function.iterate_succ_apply']
      refine ⟨(up_rooted _).trans hrooted, ?_⟩
      by_cases hne : (up^[n] p).names = []
      · -- all names are gone
        have hlen : p.names.length ≤ n := by
          rw [hnames, List.take_eq_nil_iff] at hne
          rcases hne with hzero | hnil
          · omega
          · rw [hnil]
            exact Nat.zero_le n
        have htake : p.names.take (p.names.length - (n + 1)) = [] := by
          rw [Nat.sub_eq_zero_of_le (by omega), List.take_zero]
        rw [htake]
        cases hr : p.rooted with
        | true =>
            rw [hr] at hrooted
            have hup : (up^[n] p).up = up^[n] p := by
              rw [up, if_neg (not_not.2 hne), dif_pos hrooted]
            rw [hup, hups, hr]
            exact ⟨rfl, hne⟩
        | false =>
            rw [hr] at hrooted
            obtain ⟨hups', hnames'⟩ := up_of_nil hrooted hne
            refine ⟨?_, hnames'⟩
            rw [hups', hups, hr, if_neg Bool.false_ne_true, if_neg Bool.false_ne_true]
            omega
      · obtain ⟨-, hups', hnames'⟩ := up_of_ne_nil hne
        have hlen : n < p.names.length := by
          by_contra hle
          rw [hnames, Nat.sub_eq_zero_of_le (by omega), List.take_zero] at hne
          exact hne rfl
        rw [hups', hups, hnames', hnames, List.dropLast_eq_take, List.length_take, List.take_take]
        refine ⟨?_, congrArg p.names.take (by omega)⟩
        split_ifs
        · rfl
        · omega

/-- The names that go when it is `n` times up. -/
def leaves (p : Path) (n : ℕ) : List (List Char) := p.names.drop (p.names.length - n)

/-- **When a relative path leads back into the tree of the start**: the names that it gives up are
those that it names next. -/
theorem go_within_iff (p r : Path) :
    (p.go r).Within p ↔
      (p.rooted = true ∨ r.ups ≤ p.names.length) ∧ p.leaves r.ups <+: r.names := by
  obtain ⟨hrooted, hups, hnames⟩ := iterate_up p r.ups
  have hpath : (p.go r).Within p ↔ (up^[r.ups] p).ups = p.ups ∧
      p.names <+: (up^[r.ups] p).names ++ r.names :=
    ⟨fun h => ⟨h.2.1, h.2.2⟩, fun h => ⟨hrooted, h.1, h.2⟩⟩
  have hsplit := List.take_append_drop (p.names.length - r.ups) p.names
  rw [hpath, hnames]
  refine and_congr ?_ ?_
  · rw [hups]
    cases hr : p.rooted with
    | true => simp [p.ups_of_rooted hr]
    | false =>
        simp only [Bool.false_eq_true, if_false, false_or]
        omega
  · have hright := @List.prefix_append_right_inj _ (p.leaves r.ups) r.names
      (p.names.take (p.names.length - r.ups))
    rw [leaves, hsplit] at hright
    exact hright

/-- It leads to the start itself if it names these and no others. -/
theorem go_eq_self_iff (h : (p.go r).Within p) : p.go r = p ↔ r.names = p.leaves r.ups := by
  obtain ⟨-, -, hnames⟩ := iterate_up p r.ups
  have hsplit := List.take_append_drop (p.names.length - r.ups) p.names
  have hgo : (p.go r).names = p.names.take (p.names.length - r.ups) ++ r.names := by
    rw [← hnames]
    rfl
  constructor
  · intro heq
    rw [heq] at hgo
    exact (List.append_cancel_left (hsplit.trans hgo)).symm
  · intro heq
    refine Path.ext h.1 h.2.1 ?_
    rw [hgo, heq]
    exact hsplit

end Path

/-- The text of a path, read as a relative one, has the same `..` and names. -/
theorem relative_render (p : Path) :
    (relative p.render).ups = p.ups ∧ (relative p.render).names = p.names := by
  have hclean := clean_render p
  cases hr : p.rooted with
  | true =>
      have helements : elements ('/' :: ['/'].intercalate p.names) =
          [] :: elements (['/'].intercalate p.names) := elements_append_cons [] _
      rw [render, if_pos hr, relative, helements, p.ups_of_rooted hr]
      by_cases hnil : p.names = []
      · rw [hnil]
        exact ⟨rfl, rfl⟩
      · rw [elements_intercalate (fun c hc => (p.isName c hc).2.2.2) hnil, List.foldl_cons,
          foldl_push_names p.names p.isName]
        exact ⟨rfl, rfl⟩
  | false =>
      have hhead : decide (p.render.head? = some '/') = false := by
        have hrooted := congrArg Path.rooted hclean
        rw [clean, foldl_push_rooted, hr] at hrooted
        exact hrooted
      have hrel : relative p.render = p := by
        rw [clean, hhead] at hclean
        exact hclean
      rw [hrel]
      exact ⟨rfl, rfl⟩

/-- **To join the text of a path** is to go where the path leads. -/
theorem go_relative_render (p q : Path) : p.go (relative q.render) = p.go q := by
  obtain ⟨hups, hnames⟩ := relative_render q
  apply Path.ext
  · rw [go, go, hups]
    rfl
  · rw [go, go, hups]
    rfl
  · rw [go, go, below_names, below_names, hups, hnames]

/-- `filepath.Clean` of a string, as a path. -/
def cleanPath (s : String) : Path := clean s.toList

/-- `filepath.Join` of two strings. -/
def joinPath (a b : String) : String := String.ofList (join [a.toList, b.toList])

/-- Where a join leads. -/
theorem cleanPath_joinPath (a b : String) :
    cleanPath (joinPath a b) =
      if a = "" then cleanPath b else (cleanPath a).go (relative b.toList) := by
  rw [cleanPath, joinPath, String.toList_ofList, clean_join]
  by_cases ha : a = ""
  · rw [if_pos ha, if_pos (by rw [ha]; rfl)]
    rfl
  · rw [if_neg ha, if_neg (mt String.toList_eq_nil_iff.1 ha)]
    rfl

/-- Where a join with the text of a path leads. -/
theorem cleanPath_joinPath_render (a : String) (q : Path) :
    cleanPath (joinPath a (String.ofList q.render)) =
      if a = "" then q else (cleanPath a).go q := by
  rw [cleanPath_joinPath, cleanPath, String.toList_ofList, clean_render, go_relative_render]

/-- The text is `filepath.Clean` of itself. -/
def IsClean (a : String) : Prop := String.ofList (cleanPath a).render = a

instance : DecidablePred IsClean := fun a =>
  inferInstanceAs (Decidable (String.ofList (cleanPath a).render = a))

/-- A clean text says where it leads. -/
theorem IsClean.eq {a b : String} (ha : IsClean a) (hb : IsClean b)
    (h : cleanPath a = cleanPath b) : a = b := by
  rw [← ha, ← hb, h]

/-- **A join is clean**, unless it is empty. -/
theorem isClean_joinPath (a b : String) (h : joinPath a b ≠ "") : IsClean (joinPath a b) := by
  have hrender : ∃ p : Path, joinPath a b = String.ofList p.render := by
    unfold joinPath at h ⊢
    unfold join at h ⊢
    split_ifs at h ⊢
    · unfold join at h ⊢
      split_ifs at h ⊢
      · exact absurd rfl h
      · exact ⟨_, rfl⟩
    · exact ⟨_, rfl⟩
  obtain ⟨p, hp⟩ := hrender
  rw [IsClean, cleanPath, hp, String.toList_ofList, clean_render]

/-- A name leads one directory down. -/
theorem foldl_push_elements {c : List Char} (hc : IsName c) (p : Path) :
    (elements c).foldl push p = p.below [c] fun _ hd => List.mem_singleton.1 hd ▸ hc := by
  have helements : elements c = [c] := by
    have hjoined := @elements_intercalate [c] (fun d hd => List.mem_singleton.1 hd ▸ hc.2.2.2)
      (List.cons_ne_nil c [])
    rwa [show ['/'].intercalate [c] = c by simp [List.intercalate]] at hjoined
  rw [helements]
  exact push_of_isName p hc

/-- **A join with a name** leads to that name below the first text. -/
theorem cleanPath_joinPath_name (a : String) {c : String} (hc : IsName c.toList) :
    cleanPath (joinPath a c) =
      (cleanPath a).below [c.toList] fun _ hd => List.mem_singleton.1 hd ▸ hc := by
  rw [cleanPath_joinPath]
  split_ifs with ha
  · have hhead : decide (c.toList.head? = some '/') = false :=
      decide_eq_false fun h => hc.2.2.2 (List.mem_of_head? h)
    rw [cleanPath, clean, hhead, foldl_push_elements hc, ha]
    rfl
  · rw [relative, foldl_push_elements hc, Path.go_of_ups_eq_zero _ rfl]
    rfl

/-- A join with a text that is not empty is not empty. -/
theorem joinPath_ne_empty (a : String) {b : String} (hb : b ≠ "") : joinPath a b ≠ "" := by
  intro h
  have hnil : join [a.toList, b.toList] = [] := by
    rw [← String.toList_ofList (l := join _)]
    exact String.toList_eq_nil_iff.2 h
  have hb' : b.toList ≠ [] := mt String.toList_eq_nil_iff.1 hb
  rw [join] at hnil
  split_ifs at hnil
  · rw [join, if_neg hb'] at hnil
    exact render_ne_nil _ hnil
  · exact render_ne_nil _ hnil

/-- **Joins with names** are equal if they lead from the same place to the same name. -/
theorem joinPath_name_eq_iff {a b c d : String} (hc : IsName c.toList) (hd : IsName d.toList) :
    joinPath a c = joinPath b d ↔ cleanPath a = cleanPath b ∧ c = d := by
  have hne : ∀ {c : String}, IsName c.toList → c ≠ "" := fun hc h => hc.1 (by rw [h]; rfl)
  constructor
  · intro h
    have hpath := congrArg cleanPath h
    rw [cleanPath_joinPath_name a hc, cleanPath_joinPath_name b hd] at hpath
    obtain ⟨hrooted, hups, hnames⟩ := Path.ext_iff.1 hpath
    obtain ⟨hnames, hname⟩ := List.append_inj' hnames rfl
    exact ⟨Path.ext hrooted hups hnames, String.toList_inj.1 (List.singleton_inj.1 hname)⟩
  · rintro ⟨hpath, rfl⟩
    refine (isClean_joinPath a c (joinPath_ne_empty a (hne hc))).eq
      (isClean_joinPath b c (joinPath_ne_empty b (hne hc))) ?_
    rw [cleanPath_joinPath_name a hc, cleanPath_joinPath_name b hc, hpath]

end Filepath
end Agentd

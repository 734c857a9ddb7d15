/-
# JSON as `encoding/json` writes it

The text that `json.Marshal` makes of strings, lists and records: no blanks, the fields in the
order in which they are given, and in a string an escape for the quote, the backslash, the
control characters, the characters `<`, `>` and `&`, and the two separators U+2028 and U+2029.
Strings are text, so there is no invalid UTF-8 to be replaced.

The text of a value says where it ends: `Json.render_append_inj` is that a text can be continued
in any way and the value and the continuation are still determined.
-/

import Agentd.Encoding.Digest

namespace Agentd
namespace Encoding

/-- A value without numbers, truth values and nulls. -/
inductive Json
  | str (s : String)
  | arr (l : List Json)
  | obj (fields : List (String × Json))

/-- The four digits of a number below `2 ^ 16`. -/
def hex4 (n : ℕ) : List Char :=
  [hexDigit (n / 4096 % 16), hexDigit (n / 256 % 16), hexDigit (n / 16 % 16), hexDigit (n % 16)]

/-- The quote `"`. -/
def quoteMark : Char := '\x22'

/-- The backslash. -/
def backslash : Char := '\x5c'

/-- The characters that are written by their number. -/
def isNumbered (c : Char) : Bool :=
  c.toNat < 0x20 || c = '<' || c = '>' || c = '&' || c.toNat = 0x2028 || c.toNat = 0x2029

/-- What is written for a character of a string. -/
def escape (c : Char) : List Char :=
  if c = quoteMark then [backslash, quoteMark]
  else if c = backslash then [backslash, backslash]
  else if c = '\x08' then [backslash, 'b']
  else if c = '\x0c' then [backslash, 'f']
  else if c = '\n' then [backslash, 'n']
  else if c = '\r' then [backslash, 'r']
  else if c = '\t' then [backslash, 't']
  else if isNumbered c then backslash :: 'u' :: hex4 c.toNat
  else [c]

/-- The character that is written at the start of a text, and what follows it. -/
def unescape : List Char → Option (Char × List Char)
  | [] => none
  | c :: rest =>
      if c = backslash then
        match rest with
        | 'b' :: rest => some ('\x08', rest)
        | 'f' :: rest => some ('\x0c', rest)
        | 'n' :: rest => some ('\n', rest)
        | 'r' :: rest => some ('\r', rest)
        | 't' :: rest => some ('\t', rest)
        | 'u' :: d₃ :: d₂ :: d₁ :: d₀ :: rest =>
            some (Char.ofNat (unhexDigit d₃ * 4096 + unhexDigit d₂ * 256 + unhexDigit d₁ * 16 +
              unhexDigit d₀), rest)
        | c :: rest => some (c, rest)
        | [] => none
      else some (c, rest)

/-- A string, quoted. -/
def quote (s : String) : List Char := quoteMark :: (s.toList.flatMap escape ++ [quoteMark])

mutual

/-- The text of a value. -/
def Json.render : Json → List Char
  | .str s => quote s
  | .arr [] => ['[', ']']
  | .arr (x :: l) => '[' :: (x.render ++ renderElems l)
  | .obj [] => ['\x7b', '\x7d']
  | .obj (f :: l) => '\x7b' :: (renderField f ++ renderFields l)

/-- The elements of a list after the first. -/
def renderElems : List Json → List Char
  | [] => [']']
  | x :: l => ',' :: (x.render ++ renderElems l)

/-- The fields of a record after the first. -/
def renderFields : List (String × Json) → List Char
  | [] => ['\x7d']
  | f :: l => ',' :: (renderField f ++ renderFields l)

/-- A field of a record. -/
def renderField : String × Json → List Char
  | (name, x) => quote name ++ ':' :: x.render

end

/-- A number is read back from its digits. -/
theorem unhex_hex4 {n : ℕ} (hn : n < 65536) :
    unhexDigit (hexDigit (n / 4096 % 16)) * 4096 + unhexDigit (hexDigit (n / 256 % 16)) * 256 +
      unhexDigit (hexDigit (n / 16 % 16)) * 16 + unhexDigit (hexDigit (n % 16)) = n := by
  have hdigit (m : ℕ) : unhexDigit (hexDigit (m % 16)) = m % 16 :=
    unhexDigit_hexDigit _ (Nat.mod_lt _ (by decide))
  rw [hdigit, hdigit, hdigit, hdigit]
  omega

/-- A character that is written by its number is below `2 ^ 16`. -/
theorem toNat_lt_of_isNumbered {c : Char} (h : isNumbered c = true) : c.toNat < 65536 := by
  simp only [isNumbered, Bool.or_eq_true, decide_eq_true_eq] at h
  rcases h with ((((h | rfl) | rfl) | rfl) | h) | h
  · omega
  · decide
  · decide
  · decide
  · omega
  · omega

/-- **What is written for a character is read back.** -/
theorem unescape_escape (c : Char) (rest : List Char) :
    unescape (escape c ++ rest) = some (c, rest) := by
  unfold escape
  split_ifs with hquote hback hb hf hn hr ht hnum
  · rw [hquote]
    rfl
  · rw [hback]
    rfl
  · rw [hb]
    rfl
  · rw [hf]
    rfl
  · rw [hn]
    rfl
  · rw [hr]
    rfl
  · rw [ht]
    rfl
  · have hchar := unhex_hex4 (toNat_lt_of_isNumbered hnum)
    show some (Char.ofNat _, rest) = some (c, rest)
    rw [hchar, Char.ofNat_toNat]
  · show (if c = backslash then _ else some (c, rest)) = some (c, rest)
    exact if_neg hback

/-- What is written for a character determines it, and says where it ends. -/
theorem escape_append_inj {c d : Char} {s t : List Char} (h : escape c ++ s = escape d ++ t) :
    c = d ∧ s = t := by
  have hread := congrArg unescape h
  rw [unescape_escape, unescape_escape] at hread
  exact Prod.mk.inj (Option.some.inj hread)

/-- No character is written with a quote in front. -/
theorem escape_ne_quoteMark (c : Char) (s t : List Char) : escape c ++ s ≠ quoteMark :: t := by
  intro h
  unfold escape at h
  split_ifs at h with hquote hback hb hf hn hr ht hnum
  -- a character that stands for itself is not the quote; the others begin with a backslash
  pick_goal 9
  · exact hquote (List.cons.inj h).1
  all_goals exact absurd (List.cons.inj h).1 (by decide)

/-- The characters of a string are determined up to the quote that ends it. -/
theorem escapes_append_inj {l m s t : List Char}
    (h : l.flatMap escape ++ quoteMark :: s = m.flatMap escape ++ quoteMark :: t) :
    l = m ∧ s = t := by
  induction l generalizing m with
  | nil =>
      cases m with
      | nil => exact ⟨rfl, (List.cons.inj h).2⟩
      | cons d m =>
          rw [List.flatMap_cons, List.append_assoc] at h
          exact absurd h.symm (escape_ne_quoteMark d _ _)
  | cons c l ih =>
      cases m with
      | nil =>
          rw [List.flatMap_cons, List.append_assoc] at h
          exact absurd h (escape_ne_quoteMark c _ _)
      | cons d m =>
          rw [List.flatMap_cons, List.flatMap_cons, List.append_assoc, List.append_assoc] at h
          obtain ⟨rfl, hrest⟩ := escape_append_inj h
          obtain ⟨rfl, rfl⟩ := ih hrest
          exact ⟨rfl, rfl⟩

/-- A quoted string is determined by a text that begins with it. -/
theorem quote_append_inj {a b : String} {s t : List Char} (h : quote a ++ s = quote b ++ t) :
    a = b ∧ s = t := by
  have hchars : (a.toList.flatMap escape ++ [quoteMark]) ++ s =
      (b.toList.flatMap escape ++ [quoteMark]) ++ t := (List.cons.inj h).2
  rw [List.append_assoc, List.append_assoc] at hchars
  obtain ⟨hab, hst⟩ := escapes_append_inj hchars
  exact ⟨String.toList_inj.1 hab, hst⟩

/-- A value does not begin like the end of a list. -/
theorem Json.render_append_ne (x : Json) (s t : List Char) : x.render ++ s ≠ ']' :: t := by
  intro h
  rcases x with a | (_ | ⟨x, l⟩) | (_ | ⟨f, l⟩)
  all_goals
    rw [Json.render] at h
    exact absurd (List.cons.inj h).1 (by decide)

/-- Two texts that say where they end, one after the other, say where they end. -/
theorem append_append_inj {a b c d s t : List Char} {P Q : Prop}
    (hfst : ∀ {s t}, a ++ s = c ++ t → P ∧ s = t) (hsnd : ∀ {s t}, b ++ s = d ++ t → Q ∧ s = t)
    (h : (a ++ b) ++ s = (c ++ d) ++ t) : P ∧ Q ∧ s = t := by
  rw [List.append_assoc, List.append_assoc] at h
  obtain ⟨hp, hrest⟩ := hfst h
  exact ⟨hp, hsnd hrest⟩

mutual

/-- **The text of a value says where it ends**: a value is determined by any text that begins with
its own, and so is the rest of that text. -/
theorem Json.render_append_inj : ∀ (x y : Json) {s t : List Char},
    x.render ++ s = y.render ++ t → x = y ∧ s = t
  | .str a, .str b, s, t, h => by
      rw [Json.render, Json.render] at h
      obtain ⟨rfl, rfl⟩ := quote_append_inj h
      exact ⟨rfl, rfl⟩
  | .arr [], .arr [], s, t, h => by
      rw [Json.render] at h
      exact ⟨rfl, List.append_cancel_left h⟩
  | .arr [], .arr (y :: m), s, t, h => by
      rw [Json.render, Json.render] at h
      have hrest : ']' :: s = (y.render ++ renderElems m) ++ t := (List.cons.inj h).2
      rw [List.append_assoc] at hrest
      exact absurd hrest.symm (y.render_append_ne _ _)
  | .arr (x :: l), .arr [], s, t, h => by
      rw [Json.render, Json.render] at h
      have hrest : (x.render ++ renderElems l) ++ s = ']' :: t := (List.cons.inj h).2
      rw [List.append_assoc] at hrest
      exact absurd hrest (x.render_append_ne _ _)
  | .arr (x :: l), .arr (y :: m), s, t, h => by
      rw [Json.render, Json.render] at h
      obtain ⟨rfl, rfl, rfl⟩ := append_append_inj (Json.render_append_inj x y)
        (renderElems_append_inj l m) (List.cons.inj h).2
      exact ⟨rfl, rfl⟩
  | .obj [], .obj [], s, t, h => by
      rw [Json.render] at h
      exact ⟨rfl, List.append_cancel_left h⟩
  | .obj [], .obj (g :: m), s, t, h => by
      rw [Json.render, Json.render, renderField] at h
      exact absurd (List.cons.inj (List.cons.inj h).2).1 (by decide)
  | .obj (f :: l), .obj [], s, t, h => by
      rw [Json.render, Json.render, renderField] at h
      exact absurd (List.cons.inj (List.cons.inj h).2).1 (by decide)
  | .obj (f :: l), .obj (g :: m), s, t, h => by
      rw [Json.render, Json.render] at h
      obtain ⟨rfl, rfl, rfl⟩ := append_append_inj (renderField_append_inj f g)
        (renderFields_append_inj l m) (List.cons.inj h).2
      exact ⟨rfl, rfl⟩
  | .str _, .arr [], s, t, h | .str _, .arr (_ :: _), s, t, h | .str _, .obj [], s, t, h
  | .str _, .obj (_ :: _), s, t, h | .arr [], .str _, s, t, h | .arr (_ :: _), .str _, s, t, h
  | .obj [], .str _, s, t, h | .obj (_ :: _), .str _, s, t, h | .arr [], .obj [], s, t, h
  | .arr [], .obj (_ :: _), s, t, h | .arr (_ :: _), .obj [], s, t, h
  | .arr (_ :: _), .obj (_ :: _), s, t, h | .obj [], .arr [], s, t, h
  | .obj [], .arr (_ :: _), s, t, h | .obj (_ :: _), .arr [], s, t, h
  | .obj (_ :: _), .arr (_ :: _), s, t, h => by
      rw [Json.render, Json.render] at h
      exact absurd (List.cons.inj h).1 (by decide)

/-- The same of the elements of a list. -/
theorem renderElems_append_inj : ∀ (l m : List Json) {s t : List Char},
    renderElems l ++ s = renderElems m ++ t → l = m ∧ s = t
  | [], [], s, t, h => ⟨rfl, List.append_cancel_left h⟩
  | [], _ :: _, s, t, h | _ :: _, [], s, t, h => by
      rw [renderElems, renderElems] at h
      exact absurd (List.cons.inj h).1 (by decide)
  | x :: l, y :: m, s, t, h => by
      rw [renderElems, renderElems] at h
      obtain ⟨rfl, rfl, rfl⟩ := append_append_inj (Json.render_append_inj x y)
        (renderElems_append_inj l m) (List.cons.inj h).2
      exact ⟨rfl, rfl⟩

/-- The same of the fields of a record. -/
theorem renderFields_append_inj : ∀ (l m : List (String × Json)) {s t : List Char},
    renderFields l ++ s = renderFields m ++ t → l = m ∧ s = t
  | [], [], s, t, h => ⟨rfl, List.append_cancel_left h⟩
  | [], _ :: _, s, t, h | _ :: _, [], s, t, h => by
      rw [renderFields, renderFields] at h
      exact absurd (List.cons.inj h).1 (by decide)
  | f :: l, g :: m, s, t, h => by
      rw [renderFields, renderFields] at h
      obtain ⟨rfl, rfl, rfl⟩ := append_append_inj (renderField_append_inj f g)
        (renderFields_append_inj l m) (List.cons.inj h).2
      exact ⟨rfl, rfl⟩

/-- The same of one field. -/
theorem renderField_append_inj : ∀ (f g : String × Json) {s t : List Char},
    renderField f ++ s = renderField g ++ t → f = g ∧ s = t
  | (a, x), (b, y), s, t, h => by
      rw [renderField, renderField, List.append_assoc, List.append_assoc] at h
      obtain ⟨rfl, hrest⟩ := quote_append_inj h
      obtain ⟨rfl, rfl⟩ := Json.render_append_inj x y (List.cons.inj hrest).2
      exact ⟨rfl, rfl⟩

end

/-- **The text determines the value.** -/
theorem Json.render_injective : Function.Injective Json.render := by
  intro x y h
  exact (Json.render_append_inj x y (congrArg (· ++ []) h)).1

/-- `json.Marshal`: the text in UTF-8. -/
def Json.marshal (x : Json) : List UInt8 := x.render.flatMap String.utf8EncodeChar

/-- **The bytes determine the value.** -/
theorem Json.marshal_injective : Function.Injective Json.marshal :=
  utf8EncodeChar_flatMap_injective.comp Json.render_injective

/-- The field of a text that is left out when it is empty (`omitempty`). -/
def omitText (name s : String) : List (String × Json) := if s = "" then [] else [(name, .str s)]

/-- The field of a list of texts that is left out when it is empty (`omitempty`). -/
def omitTexts (name : String) (l : List String) : List (String × Json) :=
  if l = [] then [] else [(name, .arr (l.map .str))]

/-- The field of a pointer that is left out when it is nil (`omitempty`). -/
def omitNil (name : String) : Option Json → List (String × Json)
  | none => []
  | some x => [(name, x)]

section

variable {name other : String}

/-- The only field of a record. -/
theorem lookup_field (x : Json) :
    [(name, x)].lookup other = if other = name then some x else none := by
  by_cases hname : other = name
  · rw [hname, List.lookup_cons_self, if_pos rfl]
  · have hbeq : (other == name) = false := beq_eq_false_iff_ne.2 hname
    rw [List.lookup_cons, hbeq, if_neg hname]
    rfl

@[simp] theorem lookup_omitText (s : String) :
    (omitText name s).lookup other = if s ≠ "" ∧ other = name then some (.str s) else none := by
  unfold omitText
  by_cases hs : s = ""
  · simp [hs]
  · simp [hs, lookup_field]

@[simp] theorem lookup_omitTexts (l : List String) :
    (omitTexts name l).lookup other =
      if l ≠ [] ∧ other = name then some (.arr (l.map .str)) else none := by
  unfold omitTexts
  by_cases hl : l = []
  · simp [hl]
  · simp [hl, lookup_field]

@[simp] theorem lookup_omitNil (o : Option Json) :
    (omitNil name o).lookup other = if other = name then o else none := by
  cases o with
  | none => simp [omitNil]
  | some x => exact lookup_field x

end

/-- Texts are determined by their values. -/
theorem map_str_injective : Function.Injective (List.map Json.str) :=
  List.map_injective_iff.2 fun _ _ h => Json.str.inj h

/-- A text that may be left out is determined by its field. -/
theorem text_of_omit {s t : String}
    (h : (if s ≠ "" then some (Json.str s) else none) = if t ≠ "" then some (.str t) else none) :
    s = t := by
  split_ifs at h with hs ht ht
  · exact Json.str.inj (Option.some.inj h)
  · rw [not_not.1 hs, not_not.1 ht]

/-- Texts that may be left out are determined by their field. -/
theorem texts_of_omit {l m : List String}
    (h : (if l ≠ [] then some (Json.arr (l.map .str)) else none) =
      if m ≠ [] then some (.arr (m.map .str)) else none) : l = m := by
  split_ifs at h with hl hm hm
  · exact map_str_injective (Json.arr.inj (Option.some.inj h))
  · rw [not_not.1 hl, not_not.1 hm]

end Encoding
end Agentd

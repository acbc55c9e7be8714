import Mathlib.Data.String.Basic
import ModelSchema.Json.Pointer

/-!
# Reading pointers back

Restoring slashes before tildes undoes the escaping of a reference token.  An escaped token has no
slash in it, so the first token of a pointer ends where the next one begins.

Main results:

- Theorem `JsonPointer.unescape_escape`: a token is restored from its escaped form.
- Theorem `JsonPointer.escape_eq_self_iff`: the tokens that have nothing to escape.
- Theorem `JsonPointer.firstSegment?_of_toList_eq`: the first token of a text, whatever follows.
- Theorem `JsonPointer.firstSegment?_render`: the first token of a pointer.
- Theorem `JsonPointer.firstSegment?_escaped`: the first token, escaped in two passes, and the texts
  that have none.
-/

namespace ModelSchema
namespace JsonPointer

/-! ## Tokens -/

/-- A reference token in which only tildes are escaped. -/
def escapeTildes : List Char → List Char
  | [] => []
  | c :: rest => if c = '~' then '~' :: '0' :: escapeTildes rest else c :: escapeTildes rest

/-- A text in which slashes alone are escaped. -/
def escapeSlashes : List Char → List Char
  | [] => []
  | c :: rest => if c = '/' then '~' :: '1' :: escapeSlashes rest else c :: escapeSlashes rest

/-- Escaping the tildes first and the slashes after them escapes both: the second pass finds no
slash that the first one wrote. -/
theorem escapeSlashes_escapeTildes (cs : List Char) :
    escapeSlashes (escapeTildes cs) = escape cs := by
  induction cs with
  | nil => rfl
  | cons c rest ih =>
    by_cases htilde : c = '~'
    · subst htilde
      rw [escapeTildes, if_pos rfl, escapeSlashes, if_neg (by decide), escapeSlashes,
        if_neg (by decide), ih, escape, if_pos rfl]
    · rw [escapeTildes, if_neg htilde, escapeSlashes, ih, escape, if_neg htilde]

/-- A character other than a tilde begins no escape. -/
theorem replaceEscape_cons_of_ne {c : Char} (h : c ≠ '~') (digit by' : Char) (cs : List Char) :
    replaceEscape digit by' (c :: cs) = c :: replaceEscape digit by' cs := by
  cases cs with
  | nil => rfl
  | cons d rest => rw [replaceEscape, if_neg (by simp [h])]

/-- The escape of a tilde is left alone where slashes are restored. -/
theorem replaceEscape_escape (cs : List Char) :
    replaceEscape '1' '/' (escape cs) = escapeTildes cs := by
  induction cs with
  | nil => rfl
  | cons c rest ih =>
    by_cases htilde : c = '~'
    · subst htilde
      rw [escape, if_pos rfl, replaceEscape, if_neg (by decide),
        replaceEscape_cons_of_ne (by decide), ih]
      rfl
    · by_cases hslash : c = '/'
      · subst hslash
        rw [escape, if_neg htilde, if_pos rfl, replaceEscape, if_pos ⟨rfl, rfl⟩, ih]
        rfl
      · rw [escape, if_neg htilde, if_neg hslash, replaceEscape_cons_of_ne htilde, ih,
          escapeTildes, if_neg htilde]

/-- Tildes are restored where they alone are escaped. -/
theorem replaceEscape_escapeTildes (cs : List Char) :
    replaceEscape '0' '~' (escapeTildes cs) = cs := by
  induction cs with
  | nil => rfl
  | cons c rest ih =>
    by_cases htilde : c = '~'
    · subst htilde
      rw [escapeTildes, if_pos rfl, replaceEscape, if_pos ⟨rfl, rfl⟩, ih]
    · rw [escapeTildes, if_neg htilde, replaceEscape_cons_of_ne htilde, ih]

/-- A token is restored from its escaped form. -/
theorem unescape_escape (cs : List Char) : unescape (escape cs) = cs := by
  rw [unescape, replaceEscape_escape, replaceEscape_escapeTildes]

/-- An escaped token has no slash in it. -/
theorem slash_notMem_escape (cs : List Char) : '/' ∉ escape cs := by
  induction cs with
  | nil => simp [escape]
  | cons c rest ih =>
    rw [escape]
    split_ifs with htilde hslash
    · simp [ih]
    · simp [ih]
    · simp [ih, Ne.symm hslash]

/-- Escaping adds a character for each tilde and each slash. -/
theorem length_escape (cs : List Char) :
    (escape cs).length = cs.length + cs.count '~' + cs.count '/' := by
  induction cs with
  | nil => rfl
  | cons c rest ih =>
    rw [escape]
    by_cases htilde : c = '~'
    · subst htilde
      simp [ih]
      omega
    · by_cases hslash : c = '/'
      · subst hslash
        simp [ih]
        omega
      · simp [htilde, hslash, ih]
        omega

/-- A key that is written as it is, since it has nothing to escape. -/
def Plain (key : String) : Prop := '~' ∉ key.toList ∧ '/' ∉ key.toList

instance (key : String) : Decidable (Plain key) := by
  unfold Plain
  infer_instance

/-- Only plain keys are their own escaped forms. -/
theorem escape_eq_self_iff {key : String} : escape key.toList = key.toList ↔ Plain key := by
  constructor
  · intro h
    have hlength := length_escape key.toList
    rw [h] at hlength
    constructor
    · exact List.count_eq_zero.mp (by omega)
    · exact List.count_eq_zero.mp (by omega)
  · rw [Plain]
    generalize key.toList = cs
    intro hplain
    induction cs with
    | nil => rfl
    | cons c rest ih =>
      simp only [List.mem_cons, not_or] at hplain
      rw [escape, if_neg (Ne.symm hplain.1.1), if_neg (Ne.symm hplain.2.1),
        ih ⟨hplain.1.2, hplain.2.2⟩]

/-! ## Pointers -/

/-- A pointer starts with a slash and its first key, escaped. -/
theorem toList_render_cons (key : String) (keys : List String) :
    (render (key :: keys)).toList = '/' :: (escape key.toList ++ (render keys).toList) := by
  simp [render]

/-- The first token of a text that starts with a slash and an escaped token, if nothing or another
slash follows. -/
theorem firstSegment?_of_toList_eq {pointer token : String} {rest : List Char}
    (h : pointer.toList = '/' :: (escape token.toList ++ rest))
    (hrest : ∀ c, rest.head? = some c → c = '/') : firstSegment? pointer = some token := by
  have hend : rest.takeWhile (· ≠ '/') = [] := by
    cases rest with
    | nil => rfl
    | cons c cs =>
      obtain rfl := hrest c rfl
      rfl
  have htoken : (escape token.toList ++ rest).takeWhile (· ≠ '/') = escape token.toList := by
    rw [List.takeWhile_append_of_pos, hend, List.append_nil]
    intro c hc
    have hne : c ≠ '/' := ne_of_mem_of_not_mem hc (slash_notMem_escape token.toList)
    simpa using hne
  simp only [firstSegment?, h, htoken, unescape_escape, String.ofList_toList]

/-- A pointer that is not empty starts with a slash. -/
theorem head?_toList_render {tokens : List String} {c : Char}
    (h : (render tokens).toList.head? = some c) : c = '/' := by
  cases tokens with
  | nil => simp [render] at h
  | cons token rest => simpa [render, eq_comm] using h

/-- The first token of a pointer; there is none if the pointer has no tokens. -/
theorem firstSegment?_render (tokens : List String) :
    firstSegment? (render tokens) = tokens.head? := by
  cases tokens with
  | nil => rfl
  | cons token rest =>
    exact firstSegment?_of_toList_eq (toList_render_cons token rest) fun c => head?_toList_render

/-- A text has no first token exactly if it does not start with a slash. -/
theorem firstSegment?_eq_none_iff {pointer : String} :
    firstSegment? pointer = none ↔ pointer.toList.head? ≠ some '/' := by
  unfold firstSegment?
  split
  · rename_i rest h
    simp [h]
  · rename_i h
    constructor
    · intro _ hhead
      obtain ⟨rest, hrest⟩ := List.head?_eq_some_iff.mp hhead
      exact h rest hrest
    · exact fun _ => rfl

/-- Any text is read back as the first token of a pointer in which its tildes were escaped and then
its slashes, whatever further tokens follow.  The texts without a first token are those that do not
start with a slash. -/
theorem firstSegment?_escaped :
    (∀ token rest : String, rest = "" ∨ rest.toList.head? = some '/' →
      firstSegment? ("/" ++ String.ofList (escapeSlashes (escapeTildes token.toList)) ++ rest) =
        some token) ∧
    ∀ pointer, firstSegment? pointer = none ↔ pointer.toList.head? ≠ some '/' := by
  refine ⟨fun token rest hrest => ?_, fun pointer => firstSegment?_eq_none_iff⟩
  have htext : ("/" ++ String.ofList (escapeSlashes (escapeTildes token.toList)) ++ rest).toList =
      '/' :: (escape token.toList ++ rest.toList) := by
    simp [escapeSlashes_escapeTildes]
  refine firstSegment?_of_toList_eq htext fun c hc => ?_
  rcases hrest with rfl | hslash
  · cases hc
  · rw [hslash, Option.some.injEq] at hc
    exact hc.symm

/-- A slash and the escape of a tilde, as a token before another one. -/
theorem firstSegment?_slash_tilde_zero :
    "/next".toList.head? = some '/' ∧ firstSegment? "/~1~00/next" = some "/~0" := by
  have hrest : "/next".toList.head? = some '/' := by decide
  have htoken : escapeSlashes (escapeTildes "/~0".toList) = "~1~00".toList := by decide
  have hread := firstSegment?_escaped.1 "/~0" "/next" (.inr hrest)
  rw [htoken, String.ofList_toList] at hread
  exact ⟨hrest, hread⟩

end JsonPointer
end ModelSchema

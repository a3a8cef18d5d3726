import BraceTemplate.Text.CodePoint

/-!
# BraceTemplate.Text.Basic

Text is a list of code points, so that lengths and offsets count code points and every function on
text can recurse on the data.
-/

namespace BraceTemplate

abbrev Text : Type := List CodePoint

/-- The text of some characters. -/
def Text.ofChars (cs : List Char) : Text := cs.map .char

end BraceTemplate

/-- The text of a string. -/
def String.toText (s : String) : BraceTemplate.Text := .ofChars s.toList

namespace BraceTemplate.Text

@[simp] theorem ofChars_nil : ofChars [] = [] := rfl

@[simp] theorem ofChars_cons (c : Char) (cs : List Char) :
    ofChars (c :: cs) = .char c :: ofChars cs :=
  rfl

@[simp] theorem ofChars_append (cs ds : List Char) :
    ofChars (cs ++ ds) = ofChars cs ++ ofChars ds :=
  List.map_append

@[simp] theorem length_ofChars (cs : List Char) : (ofChars cs).length = cs.length :=
  List.length_map _

@[simp] theorem toText_eq_ofChars (s : String) : s.toText = ofChars s.toList := rfl

/-- The digits of a number in a base. -/
def digits (base n : Nat) : Text := ofChars (Nat.toDigits base n)

/-- The string that prints a text. -/
def string (t : Text) : String := .ofList (t.map CodePoint.toChar)

theorem string_toText (s : String) : s.toText.string = s := by
  have hchars : s.toText.map CodePoint.toChar = s.toList := by
    rw [String.toText, ofChars, List.map_map]
    exact List.map_id s.toList
  rw [string, hchars, String.ofList_toList]

/-- Characters only, so that the text can be encoded. -/
def IsScalar (t : Text) : Prop := ∀ c ∈ t, c.isSurrogate = false

instance (t : Text) : Decidable t.IsScalar := inferInstanceAs (Decidable (∀ c ∈ t, _))

/-- Spaces on the left up to the width. -/
def padLeft (width : Nat) (t : Text) : Text := List.replicate (width - t.length) (.char ' ') ++ t

/-- Spaces on the right up to the width. -/
def padRight (width : Nat) (t : Text) : Text := t ++ List.replicate (width - t.length) (.char ' ')

/-- The rest after a leading word, if the text starts with it. -/
def after? : Text → Text → Option Text
  | [], t => some t
  | _ :: _, [] => none
  | w :: ws, c :: t => if w = c then after? ws t else none

theorem after?_eq_some_iff {w t r : Text} : after? w t = some r ↔ t = w ++ r := by
  induction w generalizing t with
  | nil => simp [after?, eq_comm]
  | cons a w ih =>
    cases t with
    | nil => simp [after?]
    | cons c t =>
      by_cases h : a = c
      · simp [after?, h, ih]
      · simp [after?, h, Ne.symm h]

/-- The pieces between the separators; one piece more than there are separators. -/
def splitOn (sep : CodePoint) : Text → List Text
  | [] => [[]]
  | c :: t =>
    if c = sep then [] :: splitOn sep t
    else
      match splitOn sep t with
      | [] => [[c]]
      | p :: ps => (c :: p) :: ps

/-- The pieces with one separator between each two. -/
def join (sep : Text) : List Text → Text
  | [] => []
  | [t] => t
  | t :: ts => t ++ sep ++ join sep ts

/-- Without the leading and trailing characters of a class. -/
def strip (blank : CodePoint → Bool) (t : Text) : Text :=
  ((t.dropWhile blank).reverse.dropWhile blank).reverse

/-- Characters of the text from one offset up to another. -/
def slice (start stop : Nat) (t : Text) : Text := (t.drop start).take (stop - start)

theorem takeWhile_append_of_stop {p : CodePoint → Bool} {w rest : Text} (hw : ∀ c ∈ w, p c = true)
    (hr : ∀ c ∈ rest.head?, p c = false) : (w ++ rest).takeWhile p = w := by
  rw [List.takeWhile_append_of_pos hw]
  cases rest with
  | nil => simp
  | cons c rest => simp [hr c (by simp)]

theorem dropWhile_append_of_stop {p : CodePoint → Bool} {w rest : Text} (hw : ∀ c ∈ w, p c = true)
    (hr : ∀ c ∈ rest.head?, p c = false) : (w ++ rest).dropWhile p = rest := by
  rw [List.dropWhile_append_of_pos hw]
  cases rest with
  | nil => simp
  | cons c rest => simp [hr c (by simp)]

theorem head?_dropWhile_eq_false {p : CodePoint → Bool} (t : Text) :
    ∀ c ∈ (t.dropWhile p).head?, p c = false := by
  intro c hc
  have := List.head?_dropWhile_not p t
  rw [Option.mem_def.1 hc] at this
  simpa using this

end BraceTemplate.Text

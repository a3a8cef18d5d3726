import BraceTemplate.Json
import BraceTemplate.Proofs.Digits
import BraceTemplate.Proofs.Operand
import BraceTemplate.Proofs.ScalarText
import BraceTemplate.Proofs.Utf16

/-!
# BraceTemplate.Proofs.JsonReading

Reading JSON that has been written. A character is written as itself, as an escape or as one or two
code units, and these are what is read back of it (`readPieces?_charText`); so a string is read back
whatever it holds, with its pairs of surrogates joined (`readString?_flatMap_charText`), and no line
feed stands in it as it is written. Natural numbers are read back from their digits, and the members
of an object on one line one after the other (`readMembers_of_comma`, `readMembers_of_brace`).
-/

namespace BraceTemplate.Json

/-! ## Strings -/

/-- The characters that are written as a backslash and a letter. -/
def isEscaped (c : CodePoint) : Bool := "\"\\\n\r\t\x0c\x08".toText.contains c

theorem isEscaped_iff {c : CodePoint} : isEscaped c = true ↔
    c = '"' ∨ c = '\\' ∨ c = '\n' ∨ c = '\r' ∨ c = '\t' ∨ c = '\x0c' ∨ c = '\x08' := by
  simp [isEscaped]

theorem charText_of_isEscaped {c : CodePoint} (h : isEscaped c = true) :
    ∃ e : CodePoint, charText true c = [.char '\\', e] ∧ e ≠ 'u' ∧ e ≠ '\n' ∧
      escaped? e = some c := by
  rcases isEscaped_iff.1 h with rfl | rfl | rfl | rfl | rfl | rfl | rfl
  · exact ⟨'"', by decide⟩
  · exact ⟨'\\', by decide⟩
  · exact ⟨'n', by decide⟩
  · exact ⟨'r', by decide⟩
  · exact ⟨'t', by decide⟩
  · exact ⟨'f', by decide⟩
  · exact ⟨'b', by decide⟩

theorem charText_of_not_isEscaped {c : CodePoint} (h : isEscaped c = false) :
    charText true c =
      if 0x20 ≤ c.toNat ∧ c.toNat ≤ 0x7e then [c]
      else (Codec.Utf16.encodeChar c).flatMap unitText := by
  have hc : ¬ isEscaped c = true := by simp [h]
  rw [isEscaped_iff] at hc
  push Not at hc
  obtain ⟨h1, h2, h3, h4, h5, h6, h7⟩ := hc
  rw [charText, if_neg h1, if_neg h2, if_neg h3, if_neg h4, if_neg h5, if_neg h6, if_neg h7]
  by_cases hlow : c.toNat < 0x20
  · have hunits : Codec.Utf16.encodeChar c = [c.toNat] := by
      rw [Codec.Utf16.encodeChar, if_pos (by omega)]
    rw [if_pos hlow, if_neg (by omega), hunits, List.flatMap_singleton]
  · by_cases hhigh : 0x7e < c.toNat
    · rw [if_neg hlow, if_pos (by simpa using hhigh), if_neg (by omega)]
    · rw [if_neg hlow, if_neg (by simpa using hhigh), if_pos (by omega)]

/-- What is read back of a character that was written. -/
def piecesOf (c : CodePoint) : List Piece :=
  if isEscaped c ∨ 0x20 ≤ c.toNat ∧ c.toNat ≤ 0x7e then [.char c]
  else (Codec.Utf16.encodeChar c).map .unit

theorem consPiece_eq_map (p : Piece) (r : Option (List Piece × Text)) :
    consPiece p r = r.map fun r => (p :: r.1, r.2) := by
  cases r with
  | none => rfl
  | some r => rfl

theorem readPieces?_unitText {n : Nat} (h : n < 65536) (rest : Text) :
    readPieces? (unitText n ++ rest) = (readPieces? rest).map fun r => (.unit n :: r.1, r.2) := by
  have hunit : hexUnit? (Nat.digitChar (n / 4096)) (Nat.digitChar (n / 256 % 16))
      (Nat.digitChar (n / 16 % 16)) (Nat.digitChar (n % 16)) = some n := by
    rw [hexUnit?, Text.hexValue?_digitChar (by omega), Text.hexValue?_digitChar (by omega),
      Text.hexValue?_digitChar (by omega), Text.hexValue?_digitChar (by omega)]
    simp only [Option.some.injEq]
    omega
  rw [unitText, Text.hexDigits_four h]
  simp only [List.cons_append, List.nil_append, readPieces?, hunit, consPiece_eq_map]

theorem readPieces?_escape {e c : CodePoint} (he : e ≠ 'u') (hc : escaped? e = some c)
    (rest : Text) :
    readPieces? ('\\' :: e :: rest) = (readPieces? rest).map fun r => (.char c :: r.1, r.2) := by
  rw [readPieces?]
  · simp only [hc, consPiece_eq_map]
  · intro _ _ _ _ _ hunit _
    exact he hunit

theorem readPieces?_plain {c : CodePoint} (hquote : c ≠ '"') (hslash : c ≠ '\\')
    (hc : 0x20 ≤ c.toNat) (rest : Text) :
    readPieces? (c :: rest) = (readPieces? rest).map fun r => (.char c :: r.1, r.2) := by
  have hcontrol : ¬ (c = '\\' ∨ c.toNat < 0x20) := by
    rintro (h | h)
    · exact hslash h
    · omega
  rw [readPieces?, if_neg hquote, if_neg hcontrol, consPiece_eq_map]
  · intro _ _ _ _ _ h
    exact absurd h hslash
  · intro _ _ h
    exact absurd h hslash

theorem readPieces?_flatMap_unitText {ns : List Nat} (h : ∀ n ∈ ns, n < 65536) (rest : Text) :
    readPieces? (ns.flatMap unitText ++ rest) =
      (readPieces? rest).map fun r => (ns.map .unit ++ r.1, r.2) := by
  induction ns with
  | nil => simp
  | cons n ns ih =>
    rw [List.flatMap_cons, List.append_assoc, readPieces?_unitText (h n List.mem_cons_self),
      ih fun m hm => h m (List.mem_cons_of_mem n hm), Option.map_map]
    rfl

theorem readPieces?_charText (c : CodePoint) (rest : Text) :
    readPieces? (charText true c ++ rest) =
      (readPieces? rest).map fun r => (piecesOf c ++ r.1, r.2) := by
  cases hescaped : isEscaped c with
  | true =>
    obtain ⟨e, htext, hu, -, hread⟩ := charText_of_isEscaped hescaped
    rw [htext, piecesOf, if_pos (.inl hescaped)]
    exact readPieces?_escape hu hread rest
  | false =>
    rw [charText_of_not_isEscaped hescaped, piecesOf]
    by_cases hplain : 0x20 ≤ c.toNat ∧ c.toNat ≤ 0x7e
    · rw [if_pos hplain, if_pos (.inr hplain)]
      refine readPieces?_plain ?_ ?_ hplain.1 rest
      all_goals
        rintro rfl
        cases hescaped
    · rw [if_neg hplain, if_neg (by simp [hescaped, hplain])]
      exact readPieces?_flatMap_unitText (fun _ => Codec.Utf16.lt_of_mem_encodeChar) rest

/-! ## Units that make one character -/

theorem joinPieces_unit {n : Nat} {ps : List Piece}
    (h : ∀ m, ps.head? = some (.unit m) →
      ¬ (0xd800 ≤ n ∧ n < 0xdc00 ∧ 0xdc00 ≤ m ∧ m < 0xe000)) :
    joinPieces (.unit n :: ps) = CodePoint.ofNat n :: joinPieces ps := by
  rcases ps with _ | ⟨_ | m, ps⟩
  · rfl
  · rfl
  · rw [joinPieces, if_neg (h m rfl)]

/-- The two code units of a character above the first plane. -/
theorem joinPieces_pair {c : CodePoint} (hc : 0x10000 ≤ c.toNat) (ps : List Piece) :
    joinPieces (.unit (0xd800 + (c.toNat - 0x10000) / 0x400) ::
      .unit (0xdc00 + (c.toNat - 0x10000) % 0x400) :: ps) = c :: joinPieces ps := by
  have hbound := c.toNat_lt
  have hcode : 0x10000 + (0xd800 + (c.toNat - 0x10000) / 0x400 - 0xd800) * 0x400 +
      (0xdc00 + (c.toNat - 0x10000) % 0x400 - 0xdc00) = c.toNat := by omega
  rw [joinPieces, if_pos (by omega), hcode, CodePoint.ofNat_toNat]

/-- A low surrogate is the first unit of a surrogate only: a character begins with its own number or
with a high one. -/
theorem head?_flatMap_piecesOf {t : Text} {m : Nat}
    (h : (t.flatMap piecesOf).head? = some (.unit m)) :
    ∃ d u, t = d :: u ∧ (m = d.toNat ∨ 0xd800 ≤ m ∧ m < 0xdc00) := by
  cases t with
  | nil => cases h
  | cons d u =>
    refine ⟨d, u, rfl, ?_⟩
    have hbound := d.toNat_lt
    rw [List.flatMap_cons, piecesOf] at h
    split at h
    · cases h
    · rw [Codec.Utf16.encodeChar] at h
      split at h
      all_goals
        cases h
        omega

theorem piecesOf_surrogate (k : Fin 2048) : piecesOf (.surrogate k) = [.unit (0xd800 + k)] := by
  have hescaped : isEscaped (.surrogate k) = false := by
    rw [← Bool.not_eq_true, isEscaped_iff]
    nofun
  have hcode : (CodePoint.surrogate k).toNat < 0x10000 := by
    simp only [CodePoint.toNat_surrogate]
    omega
  have hplain : ¬ (isEscaped (.surrogate k) = true ∨
      0x20 ≤ (CodePoint.surrogate k).toNat ∧ (CodePoint.surrogate k).toNat ≤ 0x7e) := by
    rintro (h | ⟨-, h⟩)
    · rw [hescaped] at h
      cases h
    · rw [CodePoint.toNat_surrogate] at h
      omega
  rw [piecesOf, if_neg hplain, Codec.Utf16.encodeChar, if_pos hcode]
  rfl

/-- Only a high surrogate takes something of the text behind it. -/
theorem joinPieces_piecesOf_append {c : CodePoint} {t : Text}
    (h : ∀ high low u, c = .surrogate high → t ≠ .surrogate low :: u) :
    joinPieces (piecesOf c ++ t.flatMap piecesOf) = c :: joinPieces (t.flatMap piecesOf) := by
  rw [piecesOf]
  split
  · rfl
  · simp only [Codec.Utf16.encodeChar]
    split
    · rw [List.map_singleton, List.singleton_append, joinPieces_unit, CodePoint.ofNat_toNat]
      intro m hm hpair
      obtain ⟨d, u, rfl, hd⟩ := head?_flatMap_piecesOf hm
      obtain ⟨high, rfl⟩ := CodePoint.exists_eq_surrogate (c := c) (by omega) (by omega)
      obtain ⟨low, rfl⟩ := CodePoint.exists_eq_surrogate (c := d) (by omega) (by omega)
      exact h high low u rfl rfl
    · exact joinPieces_pair (by omega) _

theorem joinPieces_flatMap_piecesOf (t : Text) :
    joinPieces (t.flatMap piecesOf) = Codec.Utf16.joinPairs t := by
  induction t using Codec.Utf16.joinPairs.induct with
  | case1 high low t hpair ih =>
    have hcode : 0x10000 + (0xd800 + high.val - 0xd800) * 0x400 + (0xd800 + low.val - 0xdc00) =
        0x10000 + high.val * 0x400 + (low.val - 0x400) := by omega
    rw [List.flatMap_cons, List.flatMap_cons, piecesOf_surrogate, piecesOf_surrogate,
      Codec.Utf16.joinPairs, if_pos hpair, ← ih, List.singleton_append, List.singleton_append,
      joinPieces, if_pos (by omega), hcode]
  | case2 high low t hpair ih =>
    have hfirst : (List.flatMap piecesOf (.surrogate low :: t)).head? =
        some (.unit (0xd800 + low)) := by
      rw [List.flatMap_cons, piecesOf_surrogate]
      rfl
    rw [List.flatMap_cons, piecesOf_surrogate, Codec.Utf16.joinPairs, if_neg hpair, ← ih,
      List.singleton_append, joinPieces_unit]
    · rw [← CodePoint.toNat_surrogate, CodePoint.ofNat_toNat]
    · rintro m hm
      rw [hfirst] at hm
      cases hm
      omega
  | case3 c t hpair ih =>
    rw [List.flatMap_cons, Codec.Utf16.joinPairs, ← ih]
    · exact joinPieces_piecesOf_append hpair
    · exact hpair
  | case4 => rfl

/-- A string is read back as it was written, its pairs of surrogates joined. -/
theorem readString?_flatMap_charText (t rest : Text) :
    readString? (t.flatMap (charText true) ++ .char '"' :: rest) =
      some (Codec.Utf16.joinPairs t, rest) := by
  have hpieces : readPieces? (t.flatMap (charText true) ++ .char '"' :: rest) =
      some (t.flatMap piecesOf, rest) := by
    induction t with
    | nil => simp [readPieces?]
    | cons c t ih =>
      rw [List.flatMap_cons, List.append_assoc, readPieces?_charText, ih]
      rfl
  rw [readString?, hpieces]
  simp only [joinPieces_flatMap_piecesOf]

theorem newline_not_mem_unitText {n : Nat} (h : n < 65536) : .char '\n' ∉ unitText n := by
  have hdigit : ∀ k, '\n' ≠ Nat.digitChar k := fun k => (Nat.digitChar_ne '\n' (by decide)).symm
  simp [unitText, Text.hexDigits_four h, hdigit]

theorem newline_not_mem_charText (c : CodePoint) : .char '\n' ∉ charText true c := by
  cases hescaped : isEscaped c with
  | true =>
    obtain ⟨e, htext, -, hnewline, -⟩ := charText_of_isEscaped hescaped
    rw [htext]
    simpa using hnewline.symm
  | false =>
    rw [charText_of_not_isEscaped hescaped]
    split
    · rintro h
      cases List.mem_singleton.1 h
      cases hescaped
    · intro h
      obtain ⟨n, hunit, hn⟩ := List.mem_flatMap.1 h
      exact newline_not_mem_unitText (Codec.Utf16.lt_of_mem_encodeChar hunit) hn

theorem newline_not_mem_stringText (t : Text) : .char '\n' ∉ stringText true t := by
  simp [stringText, newline_not_mem_charText]

theorem isScalar_unitText (n : Nat) : (unitText n).IsScalar := by simp [unitText]

/-- A surrogate is written as an escape. -/
theorem isScalar_charText (c : CodePoint) : (charText true c).IsScalar := by
  cases hescaped : isEscaped c with
  | true =>
    obtain ⟨e, htext, -, -, hread⟩ := charText_of_isEscaped hescaped
    have he : e.isSurrogate = false := by
      cases e with
      | char e => rfl
      | surrogate k => cases hread
    rw [htext]
    simp [he]
  | false =>
    rw [charText_of_not_isEscaped hescaped]
    split
    · rename_i hplain
      have hc : c.isSurrogate = false := by
        rw [← Bool.not_eq_true, CodePoint.isSurrogate_iff]
        omega
      simp [hc]
    · exact Text.isScalar_flatMap fun n _ => isScalar_unitText n

theorem isScalar_stringText (t : Text) : (stringText true t).IsScalar := by
  simp [stringText, Text.isScalar_flatMap fun c _ => isScalar_charText c]

/-! ## Values on one line -/

/-- A text that begins with something else than a blank. -/
def BeginsWord (t : Text) : Prop := ∃ c u, t = c :: u ∧ isSpace c = false

theorem BeginsWord.dropSpaces {t : Text} (h : BeginsWord t) : dropSpaces t = t := by
  obtain ⟨c, u, rfl, hc⟩ := h
  rw [Json.dropSpaces, List.dropWhile_cons_of_neg (by simp [hc])]

theorem BeginsWord.dropSpaces_space {t : Text} (h : BeginsWord t) :
    Json.dropSpaces (' ' :: t) = t := by
  rw [Json.dropSpaces, List.dropWhile_cons_of_pos rfl]
  exact h.dropSpaces

theorem readWord?_of_isAsciiDigit {d : CodePoint} (hd : Text.isAsciiDigit d = true) (t : Text) :
    readWord? (d :: t) = none := by
  have hne : ∀ c, Text.isAsciiDigit c = false → c ≠ d := by
    rintro c hc rfl
    rw [hc] at hd
    cases hd
  have hafter : ∀ c w, Text.isAsciiDigit c = false → Text.after? (c :: w) (d :: t) = none :=
    fun c w hc => by rw [Text.after?, if_neg (hne c hc)]
  refine List.findSome?_eq_none_iff.2 fun w hw => ?_
  rw [Option.map_eq_none_iff]
  simp only [words, List.mem_cons, List.not_mem_nil, or_false] at hw
  rcases hw with rfl | rfl | rfl | rfl | rfl | rfl
  · exact hafter 'n' _ (by decide)
  · exact hafter 't' _ (by decide)
  · exact hafter 'f' _ (by decide)
  · exact hafter 'N' _ (by decide)
  · exact hafter 'I' _ (by decide)
  · exact hafter '-' _ (by decide)

/-- The digits of a number are read up to the comma; only zero begins with a zero. -/
theorem readWhole?_natText (n : Nat) (rest : Text) :
    readWhole? (Number.natText n ++ .char ',' :: rest) =
      some (Number.natText n, .char ',' :: rest) := by
  by_cases hn : n = 0
  · subst hn
    rfl
  · have hstop : ∀ c ∈ (.char ',' :: rest).head?, Text.isAsciiDigit c = false := by
      rintro c ⟨⟩
      decide
    have hdigits : ∀ c ∈ Number.natText n, Text.isAsciiDigit c = true := fun c hc =>
      Number.isAsciiDigit_of_mem_natText hc
    have htake := Text.takeWhile_append_of_stop hdigits hstop
    have hdrop := Text.dropWhile_append_of_stop hdigits hstop
    have hhead := Number.head?_natText_ne hn
    have hne : Number.natText n ≠ [] := Text.digits_ne_nil
    rw [readWhole?, htake, hdrop]
    · simp [hne]
    · intro t ht
      rw [← List.head?_append_of_ne_nil _ hne, ht] at hhead
      exact hhead rfl

theorem readNumber?_natText (n : Nat) (rest : Text) :
    readNumber? false (Number.natText n ++ .char ',' :: rest) =
      some (⟨false, Number.natText n, none, none⟩, .char ',' :: rest) := by
  rw [readNumber?, readWhole?_natText]
  rfl

theorem value_natText {n : Nat} (hn : n < 10 ^ Number.maxDigits) :
    (⟨false, Number.natText n, none, none⟩ : WrittenNumber).value = .ok (.int n) := by
  have hlength : ¬ Number.maxDigits < (Number.natText n).length := by
    rw [not_lt]
    exact Number.length_natText_le_iff.2 hn
  simp only [WrittenNumber.value, Number.readDigits, if_neg hlength, Number.digitsValue_natText]
  rfl

theorem readValue_of_isAsciiDigit {d : CodePoint} {t rest : Text} {w : WrittenNumber} {v : Value}
    (hd : Text.isAsciiDigit d = true) (hnumber : readNumber? false (d :: t) = some (w, rest))
    (hvalue : w.value = .ok v) (fuel : Nat) : readValue (fuel + 1) (d :: t) = .ok (v, rest) := by
  have hscalar : readValue (fuel + 1) (d :: t) = readScalar (d :: t) := by
    rw [readValue]
    all_goals
      rintro _ ⟨⟩
      cases hd
  rw [hscalar, readScalar, readWord?_of_isAsciiDigit hd]
  · simp only [hnumber, hvalue]
  · rintro _ ⟨⟩
    cases hd

theorem readValue_natText {n : Nat} (hn : n < 10 ^ Number.maxDigits) (fuel : Nat) (rest : Text) :
    readValue (fuel + 1) (Number.natText n ++ .char ',' :: rest) =
      .ok (.int n, .char ',' :: rest) := by
  obtain ⟨d, ds, hds, hd⟩ := Number.exists_natText_eq_cons n
  have hnumber := readNumber?_natText n rest
  rw [hds, List.cons_append, ← hds] at hnumber
  rw [hds, List.cons_append]
  exact readValue_of_isAsciiDigit hd hnumber (value_natText hn) fuel

theorem readValue_stringText (fuel : Nat) (t rest : Text) :
    readValue (fuel + 1) (stringText true t ++ rest) =
      .ok (.text (Codec.Utf16.joinPairs t), rest) := by
  have hstring := readString?_flatMap_charText t rest
  simp only [stringText, List.cons_append, List.append_assoc, List.nil_append]
  rw [readValue, hstring]

theorem readValue_null (fuel : Nat) (rest : Text) :
    readValue (fuel + 1) ("null".toText ++ rest) = .ok (.none, rest) := by
  have hword : readWord? ('n' :: 'u' :: 'l' :: 'l' :: rest) = some (.none, rest) := rfl
  change readValue (fuel + 1) ('n' :: 'u' :: 'l' :: 'l' :: rest) = _
  rw [readValue, readScalar, hword]
  all_goals
    rintro _ ⟨⟩

/-! ## Members on one line -/

theorem beginsWord_stringText (t rest : Text) : BeginsWord (stringText true t ++ rest) :=
  ⟨'"', _, rfl, by decide⟩

theorem beginsWord_natText (n : Nat) (rest : Text) : BeginsWord (Number.natText n ++ rest) := by
  obtain ⟨d, ds, hds, hd⟩ := Number.exists_natText_eq_cons n
  refine ⟨d, ds ++ rest, by rw [hds, List.cons_append], ?_⟩
  simp only [isSpace, Bool.or_eq_false_iff, decide_eq_false_iff_not]
  refine ⟨⟨⟨?_, ?_⟩, ?_⟩, ?_⟩
  all_goals
    rintro rfl
    cases hd

section

variable {text rest : Text} {v : Value} {fuel : Nat} (name : Text) (done : List (Value × Value))

theorem readMembers_of_comma (htext : BeginsWord text) (hrest : BeginsWord rest)
    (h : readValue fuel text = .ok (v, ',' :: ' ' :: rest)) :
    readMembers (fuel + 1) done (stringText true name ++ .char ':' :: .char ' ' :: text) =
      readMembers fuel (putMember (Codec.Utf16.joinPairs name) v done) rest := by
  have hname := readString?_flatMap_charText name (':' :: ' ' :: text)
  simp only [stringText, List.cons_append, List.append_assoc, List.nil_append]
  rw [readMembers, hname]
  have hcolon : dropSpaces (.char ':' :: .char ' ' :: text) = .char ':' :: .char ' ' :: text := rfl
  have hcomma : dropSpaces (.char ',' :: .char ' ' :: rest) = .char ',' :: .char ' ' :: rest := rfl
  simp only [hcolon, htext.dropSpaces_space, h, hcomma, hrest.dropSpaces_space]

theorem readMembers_of_brace (htext : BeginsWord text)
    (h : readValue fuel text = .ok (v, '\x7d' :: rest)) :
    readMembers (fuel + 1) done (stringText true name ++ .char ':' :: .char ' ' :: text) =
      .ok (putMember (Codec.Utf16.joinPairs name) v done, rest) := by
  have hname := readString?_flatMap_charText name (':' :: ' ' :: text)
  simp only [stringText, List.cons_append, List.append_assoc, List.nil_append]
  rw [readMembers, hname]
  have hcolon : dropSpaces (.char ':' :: .char ' ' :: text) = .char ':' :: .char ' ' :: text := rfl
  have hbrace : dropSpaces ('\x7d' :: rest) = .char '\x7d' :: rest := rfl
  simp only [hcolon, htext.dropSpaces_space, h, hbrace]

end

theorem readValue_of_members {name t rest : Text} {es : List (Value × Value)} {fuel : Nat}
    (h : readMembers fuel [] (stringText true name ++ t) = .ok (es, rest)) :
    readValue (fuel + 1) ('\x7b' :: (stringText true name ++ t)) = .ok (.dict es, rest) := by
  have hspaces := (beginsWord_stringText name t).dropSpaces
  rw [readValue, hspaces]
  split
  · rename_i heq
    cases heq
  · rw [h]

end BraceTemplate.Json

import BraceTemplate.Environment
import BraceTemplate.Proofs.Operand

/-!
# BraceTemplate.Proofs.Variables

Where the variables of a text are. `Variable.Spelled` says which variables can be written, and `Cut`
how a text falls into them: from the left, a variable is taken where one stands, and a single
character where none does. A text has exactly one such cut, and it is the one that is read
(`cut_iff`). Substitution puts a text in place of every variable of the cut, and fails if one of
them has none (`substitutePieces_eq_ok_iff`).
-/

namespace BraceTemplate.Environment

/-! ## Variables as they are written -/

structure IsName (name : Text) : Prop where
  start : name.head?.any isNameStart = true
  chars : ∀ c ∈ name, isNameChar c = true

/-- A default may begin with any sign that is not the mark of another form. -/
def Fallback.Spelled : Fallback → Prop
  | .none => True
  | .default mark value =>
    .char '\x7d' ∉ value ∧
      (mark = ":-".toText ∨
        mark = [.char ':'] ∧ value.head? ≠ some (.char '?') ∧ value.head? ≠ some (.char '-'))
  | .message text => .char '\x7d' ∉ text

structure Variable.Spelled (v : Variable) : Prop where
  name : IsName v.name
  fallback : v.fallback.Spelled

/-- What is written between the name and the closing brace. -/
def Fallback.source : Fallback → Text
  | .none => []
  | .default mark value => mark ++ value
  | .message text => ':' :: '?' :: text

theorem Variable.source_eq (v : Variable) :
    v.source = .char '$' :: .char '\x7b' :: (v.name ++ v.fallback.source ++ [.char '\x7d']) := by
  rcases v with ⟨name, _ | ⟨mark, value⟩ | text⟩ <;> rfl

theorem source_fallbackOf (behind : Text) : (fallbackOf behind).source = .char ':' :: behind := by
  unfold fallbackOf
  split <;> rfl

theorem spelled_fallbackOf {behind : Text} (h : .char '\x7d' ∉ behind) :
    (fallbackOf behind).Spelled := by
  unfold fallbackOf
  split
  · exact fun hmem => h (List.mem_cons_of_mem _ hmem)
  · exact ⟨fun hmem => h (List.mem_cons_of_mem _ hmem), .inl rfl⟩
  · rename_i hmessage hdash
    refine ⟨h, .inr ⟨rfl, ?_, ?_⟩⟩
    · intro hhead
      obtain ⟨rest, rfl⟩ := List.head?_eq_some_iff.1 hhead
      exact hmessage rest rfl
    · intro hhead
      obtain ⟨rest, rfl⟩ := List.head?_eq_some_iff.1 hhead
      exact hdash rest rfl

theorem Fallback.Spelled.eq_fallbackOf {f : Fallback} (h : f.Spelled) :
    f = .none ∨ ∃ behind, .char '\x7d' ∉ behind ∧ f = fallbackOf behind := by
  cases f with
  | none => exact .inl rfl
  | message text =>
    have hbrace : .char '\x7d' ∉ text := h
    exact .inr ⟨'?' :: text, by simpa using hbrace, rfl⟩
  | default mark value =>
    obtain ⟨hbrace, rfl | ⟨rfl, hmessage, hdash⟩⟩ := h
    · exact .inr ⟨'-' :: value, by simpa using hbrace, rfl⟩
    · refine .inr ⟨value, hbrace, ?_⟩
      unfold fallbackOf
      split
      · exact absurd rfl hmessage
      · exact absurd rfl hdash
      · rfl

theorem readVariable?_plain {name : Text} (h : IsName name) (rest : Text) :
    readVariable? (name ++ .char '\x7d' :: rest) = some (⟨name, .none⟩, rest) := by
  have hstop : ∀ c ∈ (.char '\x7d' :: rest).head?, isNameChar c = false := by
    rintro c ⟨⟩
    decide
  have htake := Text.takeWhile_append_of_stop h.chars hstop
  have hdrop := Text.dropWhile_append_of_stop h.chars hstop
  simp [readVariable?, htake, hdrop, h.start]

theorem readVariable?_fallback {name behind : Text} (h : IsName name)
    (hbrace : .char '\x7d' ∉ behind)
    (rest : Text) :
    readVariable? (name ++ .char ':' :: (behind ++ .char '\x7d' :: rest)) =
      some (⟨name, fallbackOf behind⟩, rest) := by
  have hstop : ∀ c ∈ (.char ':' :: (behind ++ .char '\x7d' :: rest)).head?,
      isNameChar c = false := by
    rintro c ⟨⟩
    decide
  have hvalue : ∀ c ∈ behind, decide (c ≠ '\x7d') = true := fun c hc =>
    decide_eq_true fun heq => hbrace (heq ▸ hc)
  have hend : ∀ c ∈ (.char '\x7d' :: rest).head?, decide (c ≠ .char '\x7d') = false := by
    rintro c ⟨⟩
    rfl
  have htake := Text.takeWhile_append_of_stop h.chars hstop
  have hdrop := Text.dropWhile_append_of_stop h.chars hstop
  have htakeValue := Text.takeWhile_append_of_stop hvalue hend
  have hdropValue := Text.dropWhile_append_of_stop hvalue hend
  rw [readVariable?, htake, hdrop]
  simp only [h.start, htakeValue, hdropValue, Bool.not_true, Bool.false_eq_true, if_false]

theorem Variable.Spelled.readVariable? {v : Variable} (h : v.Spelled) (rest : Text) :
    readVariable? (v.name ++ v.fallback.source ++ .char '\x7d' :: rest) = some (v, rest) := by
  rcases v with ⟨name, f⟩
  have hname : IsName name := h.name
  rcases h.fallback.eq_fallbackOf with hf | ⟨behind, hbrace, hf⟩
  · obtain rfl : f = .none := hf
    simpa [Fallback.source] using readVariable?_plain hname rest
  · obtain rfl : f = fallbackOf behind := hf
    simpa [source_fallbackOf] using readVariable?_fallback hname hbrace rest

theorem spelled_of_readVariable? {t rest : Text} {v : Variable}
    (h : readVariable? t = some (v, rest)) :
    v.Spelled ∧ t = v.name ++ v.fallback.source ++ .char '\x7d' :: rest := by
  have hname : t.takeWhile isNameChar ++ t.dropWhile isNameChar = t :=
    List.takeWhile_append_dropWhile
  unfold readVariable? at h
  simp only at h
  split at h
  · cases h
  · rename_i hstart
    have hread : IsName (t.takeWhile isNameChar) :=
      ⟨by simpa using hstart, fun c hc => List.mem_takeWhile_imp hc⟩
    split at h
    · rename_i hbehind
      cases h
      rw [hbehind] at hname
      exact ⟨⟨hread, trivial⟩, by simp [Fallback.source, hname]⟩
    · rename_i behind hbehind
      split at h
      · rename_i c rest' hrest
        cases h
        have hhead := Text.head?_dropWhile_eq_false behind c (by rw [hrest]; rfl)
        have hsplit : behind.takeWhile (· ≠ .char '\x7d') ++ behind.dropWhile (· ≠ .char '\x7d') =
            behind :=
          List.takeWhile_append_dropWhile
        rw [hrest, of_not_not (of_decide_eq_false hhead)] at hsplit
        have hvalue : .char '\x7d' ∉ behind.takeWhile (· ≠ .char '\x7d') := fun hmem => by
          simpa using List.mem_takeWhile_imp hmem
        refine ⟨⟨hread, spelled_fallbackOf hvalue⟩, ?_⟩
        rw [source_fallbackOf, List.append_assoc, List.cons_append, hsplit, ← hbehind, hname]
      · cases h
    · cases h

theorem readVariable?_eq_some_iff {t rest : Text} {v : Variable} :
    readVariable? t = some (v, rest) ↔
    v.Spelled ∧ .char '$' :: .char '\x7b' :: t = v.source ++ rest := by
  simp only [Variable.source_eq, List.cons_append, List.append_assoc, List.nil_append,
    List.cons.injEq, true_and]
  constructor
  · intro h
    simpa using spelled_of_readVariable? h
  · rintro ⟨h, rfl⟩
    simpa using h.readVariable? rest

/-! ## The variables of a text -/

/-- How a text falls into variables and single characters. -/
inductive Cut : Text → List Piece → Prop where
  | nil : Cut [] []
  /-- A character at which no variable begins. -/
  | char {c : CodePoint} {t : Text} {ps : List Piece}
      (h : ∀ v : Variable, v.Spelled → ¬ v.source <+: c :: t) (rest : Cut t ps) :
      Cut (c :: t) (.char c :: ps)
  | variable {v : Variable} {t : Text} {ps : List Piece} (h : v.Spelled) (rest : Cut t ps) :
      Cut (v.source ++ t) (.variable v :: ps)

theorem piecesFrom_eq_pieces_drop (n : Nat) (t : Text) : piecesFrom n t = pieces (t.drop n) := by
  induction t generalizing n with
  | nil => cases n <;> rfl
  | cons c t ih =>
    cases n with
    | zero => rfl
    | succ n => rw [piecesFrom, ih, List.drop_succ_cons]

theorem piecesFrom_append (w t : Text) :
    piecesFrom ((w ++ t).length - t.length) (w ++ t) = pieces t := by
  rw [piecesFrom_eq_pieces_drop, List.length_append, Nat.add_sub_cancel, List.drop_left]

theorem pieces_variable {v : Variable} (h : v.Spelled) (t : Text) :
    pieces (v.source ++ t) = .variable v :: pieces t := by
  have hread : readVariable? (v.name ++ v.fallback.source ++ [.char '\x7d'] ++ t) = some (v, t) :=
    readVariable?_eq_some_iff.2 ⟨h, by rw [Variable.source_eq]; rfl⟩
  have hskip :=
    piecesFrom_append (.char '\x7b' :: (v.name ++ v.fallback.source ++ [.char '\x7d'])) t
  rw [List.cons_append] at hskip
  rw [Variable.source_eq, List.cons_append, List.cons_append, pieces, piecesFrom]
  simp only [hread, hskip]

theorem pieces_char {c : CodePoint} {t : Text}
    (h : ∀ v : Variable, v.Spelled → ¬ v.source <+: c :: t) :
    pieces (c :: t) = .char c :: pieces t := by
  by_cases hopen : ∃ rest, c = '$' ∧ t = .char '\x7b' :: rest
  · obtain ⟨rest, rfl, rfl⟩ := hopen
    have hread : readVariable? rest = none := by
      refine Option.eq_none_iff_forall_ne_some.2 fun ⟨v, behind⟩ hread => ?_
      obtain ⟨hv, heq⟩ := readVariable?_eq_some_iff.1 hread
      exact h v hv ⟨behind, heq.symm⟩
    simp only [pieces, piecesFrom, hread]
  · rw [pieces, piecesFrom, pieces]
    intro rest hc ht
    exact hopen ⟨rest, hc, ht⟩

theorem Cut.eq_pieces {t : Text} {ps : List Piece} (h : Cut t ps) : ps = pieces t := by
  induction h with
  | nil => rfl
  | char h _ ih => rw [pieces_char h, ih]
  | «variable» h _ ih => rw [pieces_variable h, ih]

theorem cut_pieces (t : Text) : Cut t (pieces t) := by
  induction hn : t.length using Nat.strongRecOn generalizing t with
  | ind n ih =>
    cases t with
    | nil => exact .nil
    | cons c t =>
      by_cases hv : ∃ v : Variable, v.Spelled ∧ v.source <+: c :: t
      · obtain ⟨v, hv, rest, hrest⟩ := hv
        rw [← hrest, pieces_variable hv]
        refine .variable hv (ih rest.length ?_ rest rfl)
        rw [← hn, ← hrest, Variable.source_eq]
        simp
        omega
      · have hv : ∀ v : Variable, v.Spelled → ¬ v.source <+: c :: t := fun v hs hp =>
          hv ⟨v, hs, hp⟩
        rw [pieces_char hv]
        exact .char hv (ih t.length (by rw [← hn]; exact Nat.lt_succ_self _) t rfl)

theorem cut_iff {t : Text} {ps : List Piece} : Cut t ps ↔ ps = pieces t :=
  ⟨Cut.eq_pieces, fun h => h ▸ cut_pieces t⟩

/-! ## Replacing variables -/

/-- What stands in place of a piece. A variable gives its value if it is set, else its default, and
without a default itself. -/
def Piece.replaced (env : Environment) : Piece → Text
  | .char c => [c]
  | .variable v =>
    match env.lookup v.name, v.fallback with
    | some value, _ => value
    | none, .default _ value => value
    | none, _ => v.source

/-- Whether a variable makes substitution fail: it is not set, and either every variable has to be
set or this one. -/
def Refused (env : Environment) (strict : Bool) (v : Variable) : Prop :=
  env.lookup v.name = none ∧ (strict = true ∨ ∃ message, v.fallback = .message message)

theorem Refused.of_lenient {env : Environment} {v : Variable} (h : Refused env false v) :
    Refused env true v :=
  ⟨h.1, .inl rfl⟩

theorem valueOf_eq_ok_iff {env : Environment} {strict : Bool} {v : Variable} {r : Text} :
    valueOf env strict v = .ok r ↔
      ¬ Refused env strict v ∧ r = (Piece.variable v).replaced env := by
  rcases v with ⟨name, f⟩
  cases hset : env.lookup name with
  | some value => simp [valueOf, Refused, Piece.replaced, hset, eq_comm]
  | none =>
    cases f with
    | none => cases strict <;> simp [valueOf, Refused, Piece.replaced, hset, eq_comm]
    | default mark value => cases strict <;> simp [valueOf, Refused, Piece.replaced, hset, eq_comm]
    | message text => simp [valueOf, Refused, hset]

theorem substitutePieces_cons_eq_ok_iff {env : Environment} {strict : Bool} {p : Piece}
    {ps : List Piece} {r : Text} :
    substitutePieces env strict (p :: ps) = .ok r ↔
      ∃ rest, (∀ v, p = .variable v → ¬ Refused env strict v) ∧
        substitutePieces env strict ps = .ok rest ∧ r = p.replaced env ++ rest := by
  cases p with
  | char c =>
    rw [substitutePieces]
    cases substitutePieces env strict ps with
    | error e => simp
    | ok rest => simp [Piece.replaced, eq_comm]
  | «variable» v =>
    rw [substitutePieces]
    cases hvalue : valueOf env strict v with
    | error e =>
      have hrefused : Refused env strict v := by
        by_contra hnot
        have hok := valueOf_eq_ok_iff.2 ⟨hnot, rfl⟩
        rw [hvalue] at hok
        cases hok
      simp [hrefused]
    | ok value =>
      obtain ⟨hnot, rfl⟩ := valueOf_eq_ok_iff.1 hvalue
      cases substitutePieces env strict ps with
      | error e => simp
      | ok rest => simp [hnot, eq_comm]

theorem substitutePieces_eq_ok_iff {env : Environment} {strict : Bool} {ps : List Piece}
    {r : Text} :
    substitutePieces env strict ps = .ok r ↔
      (∀ v, .variable v ∈ ps → ¬ Refused env strict v) ∧ r = ps.flatMap (Piece.replaced env) := by
  induction ps generalizing r with
  | nil => simp [substitutePieces, eq_comm]
  | cons p ps ih =>
    rw [substitutePieces_cons_eq_ok_iff, List.flatMap_cons]
    constructor
    · rintro ⟨rest, hp, hrest, rfl⟩
      obtain ⟨hps, rfl⟩ := ih.1 hrest
      refine ⟨fun v hv => ?_, rfl⟩
      rcases List.mem_cons.1 hv with h | h
      · exact hp v h.symm
      · exact hps v h
    · rintro ⟨h, rfl⟩
      have hrest := ih.2 ⟨fun v hv => h v (List.mem_cons_of_mem p hv), rfl⟩
      refine ⟨_, fun v hv => ?_, hrest, rfl⟩
      exact h v (hv ▸ List.mem_cons_self)

end BraceTemplate.Environment

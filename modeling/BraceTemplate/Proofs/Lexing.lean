import BraceTemplate.Proofs.Decomposition
import BraceTemplate.Token
import Mathlib.Data.List.TakeWhile

/-!
# BraceTemplate.Proofs.Lexing

The scanner against a relation. `Lexed before ts` says token by token what may stand in a list of
tokens, without the scanner's accumulated text: each brace of a literal text opens nothing, each
replacement is read up to its closing brace, and a replacement with fewer than two backslashes has
none before it. A template without a fault has exactly one such list, and this is the one that is
scanned (`scan_eq_iff`).
-/

namespace BraceTemplate

namespace Token

/-- Tokens as they are written. -/
def sources (ts : List Token) : Text := ts.flatMap source

@[simp] theorem sources_nil : sources [] = [] := rfl

@[simp] theorem sources_cons (t : Token) (ts : List Token) :
    sources (t :: ts) = t.source ++ sources ts := by simp [sources]

@[simp] theorem sources_append (ts us : List Token) :
    sources (ts ++ us) = sources ts ++ sources us := by simp [sources]

end Token

open Token (sources)

/-- What stands behind a brace that opens nothing. -/
structure IsStray (rest : Text) : Prop where
  not_open : ¬ Token.blockOpen.source <+: .char '\x7b' :: rest
  not_close : ¬ Token.blockClose.source <+: .char '\x7b' :: rest
  parse_eq : Body.parse rest = .ok none

theorem isStray_of_parse {rest : Text} (hparse : Body.parse rest = .ok none)
    (hopen : ∀ r, rest ≠ .char '?' :: .char '\x7d' :: r)
    (hclose : ∀ r, rest ≠ .char '.' :: .char '\x7d' :: r) :
    IsStray rest := by
  refine ⟨?_, ?_, hparse⟩
  · rintro ⟨r, hr⟩
    exact hopen r (List.cons.inj hr).2.symm
  · rintro ⟨r, hr⟩
    exact hclose r (List.cons.inj hr).2.symm

/-- Each brace of a text opens nothing, when it is read with what stands behind the text. -/
def Strays : Text → Text → Prop
  | [], _ => True
  | c :: text, rest => (c = '\x7b' → IsStray (text ++ rest)) ∧ Strays text rest

theorem strays_append {text more rest : Text} :
    Strays (text ++ more) rest ↔ Strays text (more ++ rest) ∧ Strays more rest := by
  induction text with
  | nil => simp [Strays]
  | cons c text ih => simp only [List.cons_append, Strays, ih, List.append_assoc, and_assoc]

theorem strays_of_not_mem {text : Text} (h : .char '\x7b' ∉ text) (rest : Text) :
    Strays text rest := by
  induction text with
  | nil => trivial
  | cons c text ih =>
    rw [List.mem_cons, not_or] at h
    exact ⟨fun hc => absurd hc.symm h.1, ih h.2⟩

/-- The tokens of a text, behind a literal text that belongs to them or behind none. -/
inductive Lexed : Text → List Token → Prop where
  | nil {before : Text} : Lexed before []
  | literal {text : Text} {ts : List Token} :
      text ≠ [] → Strays text (sources ts) → Lexed text ts → Lexed [] (.literal text :: ts)
  | blockOpen {before : Text} {ts : List Token} : Lexed [] ts → Lexed before (.blockOpen :: ts)
  | blockClose {before : Text} {ts : List Token} : Lexed [] ts → Lexed before (.blockClose :: ts)
  | replacement {before : Text} {escape : Escape} {body : Body} {ts : List Token} :
      Body.parse (body.raw ++ .char '\x7d' :: sources ts) = .ok (some (body, sources ts)) →
      (escape.count < 2 → before.getLast? ≠ some (.char '\\')) → Lexed [] ts →
      Lexed before (.replacement escape body :: ts)

namespace Scan

/-! ## The steps of the scanner -/

theorem scanFrom_nil (acc : Text) : scanFrom acc [] = flush acc ⟨[], none⟩ := by rw [scanFrom]

theorem scanFrom_open (acc rest : Text) :
    scanFrom acc ('\x7b' :: '?' :: '\x7d' :: rest) =
      flush acc ((scanFrom [] rest).cons .blockOpen) := by rw [scanFrom]

theorem scanFrom_close (acc rest : Text) :
    scanFrom acc ('\x7b' :: '.' :: '\x7d' :: rest) =
      flush acc ((scanFrom [] rest).cons .blockClose) := by rw [scanFrom]

theorem scanFrom_of_ne {c : CodePoint} (hc : c ≠ '\x7b') (acc rest : Text) :
    scanFrom acc (c :: rest) = scanFrom (c :: acc) rest := by
  rw [scanFrom]
  · rw [if_neg hc]
  · exact fun _ h => absurd h hc
  · exact fun _ h => absurd h hc

theorem scanFrom_of_isStray {rest : Text} (h : IsStray rest) (acc : Text) :
    scanFrom acc ('\x7b' :: rest) = scanFrom ('\x7b' :: acc) rest := by
  rw [scanFrom]
  · rw [if_pos rfl]
    split
    · rename_i hp
      rw [h.parse_eq] at hp
      cases hp
    · rfl
    · rename_i hp
      rw [h.parse_eq] at hp
      cases hp
  · rintro r - rfl
    exact h.not_open ⟨r, rfl⟩
  · rintro r - rfl
    exact h.not_close ⟨r, rfl⟩

theorem scanFrom_of_parse {rest rest' : Text} {body : Body}
    (h : Body.parse rest = .ok (some (body, rest'))) (acc : Text) :
    scanFrom acc ('\x7b' :: rest) =
      flush (acc.drop (Escape.ofRun (acc.takeWhile (· = .char '\\')).length).count)
        ((scanFrom [] rest').cons
          (.replacement (Escape.ofRun (acc.takeWhile (· = .char '\\')).length) body)) := by
  rw [scanFrom]
  · rw [if_pos rfl]
    split
    · rename_i hp
      rw [h] at hp
      cases hp
    · rename_i hp
      rw [h] at hp
      cases hp
    · rename_i hp
      rw [h] at hp
      cases hp
      rfl
  · rintro r - rfl
    rw [Body.parse_eq_none (.inl rfl)] at h
    cases h
  · rintro r - rfl
    rw [Body.parse_eq_none (.inr rfl)] at h
    cases h

theorem scanFrom_append {text rest : Text} (h : Strays text rest) (acc : Text) :
    scanFrom acc (text ++ rest) = scanFrom (text.reverse ++ acc) rest := by
  induction text generalizing acc with
  | nil => rfl
  | cons c text ih =>
    have hstep : scanFrom acc (c :: (text ++ rest)) = scanFrom (c :: acc) (text ++ rest) := by
      by_cases hc : c = '\x7b'
      · subst hc
        exact scanFrom_of_isStray (h.1 rfl) acc
      · exact scanFrom_of_ne hc acc _
    rw [List.cons_append, hstep, ih h.2]
    simp

theorem fault_flush (acc : Text) (s : Scan) : (flush acc s).fault = s.fault := by
  unfold flush
  split <;> rfl

theorem sources_flush (acc : Text) (s : Scan) :
    sources (flush acc s).tokens = acc.reverse ++ sources s.tokens := by
  unfold flush
  split
  · rename_i h
    rw [List.isEmpty_iff.1 h]
    rfl
  · simp [cons, Token.source]

/-- A token behind the accumulated text, which becomes a literal text if there is any. -/
theorem lexed_flush {acc : Text} {s : Scan} (hs : Strays acc.reverse (sources s.tokens))
    (h : Lexed acc.reverse s.tokens) : Lexed [] (flush acc s).tokens := by
  unfold flush
  split
  · rename_i hacc
    rwa [List.isEmpty_iff.1 hacc] at h
  · rename_i hacc
    exact .literal (by simpa using hacc) hs h

theorem lexed_flush_cons {acc rest : Text} {s : Scan} {t : Token}
    (hs : Strays acc.reverse (t.source ++ rest)) (hsource : sources s.tokens = rest)
    (h : Lexed acc.reverse (t :: s.tokens)) :
    Lexed [] (flush acc (s.cons t)).tokens ∧
      sources (flush acc (s.cons t)).tokens = acc.reverse ++ (t.source ++ rest) := by
  have htokens : sources (s.cons t).tokens = t.source ++ rest := by
    rw [cons, Token.sources_cons, hsource]
  refine ⟨lexed_flush ?_ h, ?_⟩
  · rwa [htokens]
  · rw [sources_flush, htokens]

/-! ## What is scanned is of the relation -/

theorem replicate_append_drop_count (acc : Text) {k : Nat}
    (hk : k = (Escape.ofRun (acc.takeWhile (· = .char '\\')).length).count) :
    acc = List.replicate k (.char '\\') ++ acc.drop k ∧
    (k < 2 → (acc.drop k).head? ≠ some (.char '\\')) := by
  rw [Escape.count_ofRun] at hk
  have hrun : acc.takeWhile (· = .char '\\') =
      List.replicate (acc.takeWhile (· = .char '\\')).length (.char '\\') :=
    List.eq_replicate_of_mem fun c hc => by simpa using List.mem_takeWhile_imp hc
  have hacc := List.takeWhile_append_dropWhile (p := (· = .char '\\')) (l := acc)
  constructor
  · have htake : acc.take k = List.replicate k (.char '\\') := by
      have h := congrArg (List.take k) hacc
      rw [List.take_append_of_le_length (by omega), hrun, List.take_replicate] at h
      rw [← h]
      congr 1
      omega
    rw [← htake, List.take_append_drop]
  · intro hlt
    have hdrop : acc.dropWhile (· = .char '\\') = acc.drop k := by
      have h := congrArg (List.drop k) hacc
      rwa [List.drop_left' (by omega)] at h
    have hhead := List.head?_dropWhile_not (· = .char '\\') acc
    rw [hdrop] at hhead
    intro h
    rw [h] at hhead
    simp at hhead

/-- By induction on the scanner; all that is accumulated is literal text. -/
theorem lexed_scanFrom {acc t : Text} (h : (scanFrom acc t).fault = none)
    (hs : Strays acc.reverse t) :
    Lexed [] (scanFrom acc t).tokens ∧ sources (scanFrom acc t).tokens = acc.reverse ++ t := by
  fun_induction scanFrom acc t with
  | case1 acc => exact ⟨lexed_flush hs .nil, sources_flush acc _⟩
  | case2 acc rest ih =>
    rw [fault_flush] at h
    obtain ⟨hl, hsource⟩ := ih h trivial
    exact lexed_flush_cons hs hsource (.blockOpen hl)
  | case3 acc rest ih =>
    rw [fault_flush] at h
    obtain ⟨hl, hsource⟩ := ih h trivial
    exact lexed_flush_cons hs hsource (.blockClose hl)
  | case4 => cases h
  | case5 acc rest hp hopen hclose ih =>
    have hstray := isStray_of_parse hp (fun r => hopen r rfl) (fun r => hclose r rfl)
    have := ih h (by
      rw [List.reverse_cons, strays_append]
      exact ⟨hs, fun _ => hstray, trivial⟩)
    simpa using this
  | case6 acc rest body rest' hp escape hopen hclose ih =>
    rw [fault_flush] at h
    obtain ⟨hl, hsource⟩ := ih h trivial
    obtain ⟨hacc, hleft⟩ := replicate_append_drop_count acc (k := escape.count) rfl
    have hraw := Body.raw_append_of_parse hp
    have htoken : (Token.replacement escape body).source ++ rest' =
        List.replicate escape.count (.char '\\') ++ .char '\x7b' :: rest := by
      rw [← hraw]
      simp [Token.source]
    have hreverse : (acc.drop escape.count).reverse ++ List.replicate escape.count (.char '\\') =
        acc.reverse := by
      conv => rhs; rw [hacc]
      simp
    rw [← hreverse, strays_append, ← htoken] at hs
    have hparse : Body.parse (body.raw ++ .char '\x7d' :: sources (scanFrom [] rest').tokens) =
        .ok (some (body, sources (scanFrom [] rest').tokens)) := by
      rw [hsource, List.reverse_nil, List.nil_append, hraw, hp]
    have hbefore : escape.count < 2 →
        (acc.drop escape.count).reverse.getLast? ≠ some (.char '\\') := by
      rwa [List.getLast?_reverse]
    obtain ⟨hl, hs⟩ := lexed_flush_cons hs.1 hsource (.replacement hparse hbefore hl)
    rw [← hreverse, List.append_assoc, ← htoken]
    exact ⟨hl, hs⟩
  | case7 acc c rest hopen hclose hc ih =>
    have := ih h (by
      rw [List.reverse_cons, strays_append]
      exact ⟨hs, fun h => absurd h hc, trivial⟩)
    simpa using this

/-! ## What is of the relation is scanned -/

/-- Behind the backslashes of a replacement the run of backslashes gives back its escape. -/
theorem ofRun_takeWhile (e : Escape) {acc : Text}
    (h : e.count < 2 → acc.head? ≠ some (.char '\\')) :
    Escape.ofRun
      ((List.replicate e.count (CodePoint.char '\\') ++ acc).takeWhile (· = .char '\\')).length =
        e := by
  have hlength :
      ((List.replicate e.count (CodePoint.char '\\') ++ acc).takeWhile (· = .char '\\')).length =
      (acc.takeWhile (· = .char '\\')).length + e.count := by
    rw [List.takeWhile_append_of_pos (by simp)]
    simp [Nat.add_comm]
  have hnone : e.count < 2 → (acc.takeWhile (· = .char '\\')).length = 0 := by
    intro hlt
    cases acc with
    | nil => rfl
    | cons c acc =>
      have hc : c ≠ '\\' := by simpa using h hlt
      simp [hc]
  rw [hlength]
  cases e with
  | plain =>
    rw [hnone (by decide)]
    rfl
  | verbatim =>
    rw [hnone (by decide)]
    rfl
  | backslashed => rfl

/-- By induction on the relation; the text before the tokens is what has been accumulated. -/
theorem scanFrom_sources {before : Text} {ts : List Token} (h : Lexed before ts) :
    scanFrom before.reverse (sources ts) = flush before.reverse ⟨ts, none⟩ := by
  induction h with
  | nil => rw [Token.sources_nil, scanFrom_nil]
  | @literal text ts hne hs _ ih =>
    rw [Token.sources_cons, Token.source, scanFrom_append hs, List.reverse_nil, List.append_nil, ih]
    simp [flush, cons, hne]
  | @blockOpen before ts _ ih =>
    have hstep := scanFrom_open before.reverse (sources ts)
    rw [List.reverse_nil] at ih
    rw [ih] at hstep
    rw [Token.sources_cons]
    exact hstep
  | @blockClose before ts _ ih =>
    have hstep := scanFrom_close before.reverse (sources ts)
    rw [List.reverse_nil] at ih
    rw [ih] at hstep
    rw [Token.sources_cons]
    exact hstep
  | @replacement before escape body ts hp hleft _ ih =>
    have hnot : .char '\x7b' ∉ List.replicate escape.count (CodePoint.char '\\') := by simp
    rw [← List.head?_reverse] at hleft
    have hstep := scanFrom_of_parse hp (List.replicate escape.count (.char '\\') ++ before.reverse)
    rw [ofRun_takeWhile escape hleft, List.drop_left' (by simp)] at hstep
    rw [List.reverse_nil] at ih
    rw [ih, ← List.reverse_replicate, ← scanFrom_append (strays_of_not_mem hnot _)] at hstep
    have hsource : sources (.replacement escape body :: ts) =
        List.replicate escape.count (.char '\\') ++
          .char '\x7b' :: (body.raw ++ .char '\x7d' :: sources ts) := by
      simp [Token.source]
    rw [hsource]
    exact hstep

end Scan

theorem scan_eq_iff {template : Text} {ts : List Token} :
    scan template = ⟨ts, none⟩ ↔ Lexed [] ts ∧ sources ts = template := by
  constructor
  · intro h
    have hl := @Scan.lexed_scanFrom [] template (by rw [← scan, h]) trivial
    rw [← scan, h] at hl
    exact hl
  · rintro ⟨hl, rfl⟩
    exact Scan.scanFrom_sources hl

end BraceTemplate

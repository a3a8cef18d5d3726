import BraceTemplate.Proofs.Lexing

/-!
# BraceTemplate.Proofs.Placement

A body means the same wherever it stands. Patterns, groups and formats may hold braces, and a body
is read out of the text that it stands in; still, what is read at an offset depends on the body
alone (`compile_eq_some_iff_parseAt`), so that each replacement of a template means what its body
means.
-/

namespace BraceTemplate

namespace Body

/-- The body that begins at an offset, and the offset of its closing brace. -/
def parseAt (t : Text) (start : Nat) : Except Fault (Option (Body × Nat)) :=
  match parse (t.drop start) with
  | .error f => .error f
  | .ok none => .ok none
  | .ok (some (b, rest)) => .ok (some (b, t.length - rest.length - 1))

theorem parseAt_eq_none_iff {t : Text} {start : Nat} :
    parseAt t start = .ok none ↔ parse (t.drop start) = .ok none := by
  unfold parseAt
  split
  all_goals
    rename_i h
    simp [h]

theorem parseAt_append_eq_some_iff {before t : Text} {b : Body} {close : Nat} :
    parseAt (before ++ t) before.length = .ok (some (b, close)) ↔
      ∃ rest, parse t = .ok (some (b, rest)) ∧ close = before.length + b.raw.length := by
  unfold parseAt
  rw [List.drop_left]
  split
  · rename_i h
    simp [h]
  · rename_i h
    simp [h]
  · rename_i b' rest h
    have hraw := congrArg List.length (raw_append_of_parse h)
    simp only [List.length_append, List.length_cons] at hraw
    have hclose : (before ++ t).length - rest.length - 1 = before.length + b'.raw.length := by
      rw [List.length_append]
      omega
    rw [h, hclose]
    constructor
    · intro heq
      cases heq
      exact ⟨rest, rfl, rfl⟩
    · rintro ⟨rest', heq, rfl⟩
      cases heq
      rfl

theorem compile_eq_some_iff_parseAt {before raw after : Text} {b : Body} :
    compile raw = .ok (some b) ↔
      parseAt (before ++ (raw ++ .char '\x7d' :: after)) before.length =
        .ok (some (b, before.length + raw.length)) := by
  rw [parseAt_append_eq_some_iff, compile_eq_some_iff_parse (s := after)]
  constructor
  · intro h
    have hraw := List.append_cancel_right (raw_append_of_parse h)
    exact ⟨after, h, by rw [hraw]⟩
  · rintro ⟨rest, h, hlength⟩
    have hraw := raw_append_of_parse h
    obtain ⟨-, hrest⟩ := List.append_inj hraw (by omega)
    cases hrest
    exact h

theorem compile_raw_of_parse {t rest : Text} {b : Body} (h : parse t = .ok (some (b, rest))) :
    compile b.raw = .ok (some b) := by
  rw [compile_eq_some_iff_parse (s := rest), raw_append_of_parse h, h]

theorem raw_eq_of_compile {raw : Text} {b : Body} (h : compile raw = .ok (some b)) :
    b.raw = raw :=
  List.append_cancel_right (raw_append_of_parse (compile_eq_some_iff_parse (s := []).1 h))

end Body

namespace Scan

theorem mem_flush {t : Token} {acc : Text} {s : Scan} (h : t ∈ (flush acc s).tokens)
    (hl : t.isLiteral = false) : t ∈ s.tokens := by
  unfold flush at h
  split at h
  · exact h
  · rcases List.mem_cons.1 h with rfl | h
    · cases hl
    · exact h

/-- By induction on the scanner, also where a later body has a fault. -/
theorem compile_raw_of_mem_scanFrom {acc t : Text} {e : Escape} {b : Body}
    (h : .replacement e b ∈ (scanFrom acc t).tokens) : Body.compile b.raw = .ok (some b) := by
  fun_induction scanFrom acc t with
  | case1 acc => cases mem_flush h rfl
  | case2 acc rest ih =>
    rcases List.mem_cons.1 (mem_flush h rfl) with h | h
    · cases h
    · exact ih h
  | case3 acc rest ih =>
    rcases List.mem_cons.1 (mem_flush h rfl) with h | h
    · cases h
    · exact ih h
  | case4 => cases h
  | case5 acc rest hp hopen hclose ih => exact ih h
  | case6 acc rest body rest' hp escape hopen hclose ih =>
    rcases List.mem_cons.1 (mem_flush h rfl) with h | h
    · obtain ⟨-, rfl⟩ := Token.replacement.inj h
      exact Body.compile_raw_of_parse hp
    · exact ih h
  | case7 acc c rest hopen hclose hc ih => exact ih h

theorem scan_braces_iff {raw : Text} {b : Body} :
    scan (.char '\x7b' :: (raw ++ [.char '\x7d'])) = ⟨[.replacement .plain b], none⟩ ↔
      Body.compile raw = .ok (some b) := by
  rw [scan_eq_iff]
  constructor
  · rintro ⟨hl, hsource⟩
    have hraw : b.raw = raw := by simpa [Token.source, Escape.count] using hsource
    cases hl with
    | replacement hp _ _ =>
      rw [← hraw]
      exact Body.compile_raw_of_parse hp
  · intro h
    have hraw := Body.raw_eq_of_compile h
    refine ⟨.replacement ?_ (by simp) .nil, ?_⟩
    · rw [hraw]
      exact Body.compile_eq_some_iff_parse.1 h
    · simp [Token.source, Escape.count, hraw]

end Scan

/-- A body means the same on its own, at any offset of any text, in any template and as the only
token of a template. -/
theorem compile_iff_everywhere :
    (∀ (before raw after : Text) (b : Body), Body.compile raw = .ok (some b) ↔
      Body.parseAt (before ++ (raw ++ .char '\x7d' :: after)) before.length =
        .ok (some (b, before.length + raw.length))) ∧
    (∀ (template : Text) (e : Escape) (b : Body),
      .replacement e b ∈ (scan template).tokens → Body.compile b.raw = .ok (some b)) ∧
    ∀ (raw : Text) (b : Body),
      scan (.char '\x7b' :: (raw ++ [.char '\x7d'])) = ⟨[.replacement .plain b], none⟩ ↔
        Body.compile raw = .ok (some b) :=
  ⟨fun _ _ _ _ => Body.compile_eq_some_iff_parseAt,
    fun _ _ _ h => Scan.compile_raw_of_mem_scanFrom h, fun _ _ => Scan.scan_braces_iff⟩

/-- A pattern with a closing brace, in a template behind a stray brace. -/
theorem compile_braced_pattern :
    Body.compile "[/a\x7d/]".toText = .ok (some ⟨"[/a\x7d/]".toText, .next,
      [.extract (.literal (some "a\x7d".toText)) (.literal (some []))]⟩) :=
  compile_iff_everywhere.2.1 "\x7bx\x7b[/a\x7d/]\x7d".toText .plain ⟨"[/a\x7d/]".toText, .next,
    [.extract (.literal (some "a\x7d".toText)) (.literal (some []))]⟩ (by decide +kernel)

end BraceTemplate

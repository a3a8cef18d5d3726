import BraceTemplate.Proofs.Correspondence
import BraceTemplate.Proofs.References

/-!
# BraceTemplate.Proofs.Application

Which operators a run applies, and to what. `Token.Applies` says that a run of tokens applies an
operator to a value at a cursor, also in a block that is dropped later. A run ends with a text only
if every operator of every token that is evaluated has been applied and has given a text
(`Token.exists_applies`, `Token.Applies.exists_text`), and it ends in an expansion error only in an
application (`Token.exists_applies_of_error`).
-/

namespace BraceTemplate

namespace Evaluation

variable {α β : Type} {x : Evaluation α} {n m : Nat} {e : Failure}

theorem run_bind_eq_ok_iff {f : α → Evaluation β} {b : β} :
    (x >>= f).run n = .ok b m ↔ ∃ a k, x.run n = .ok a k ∧ (f a).run k = .ok b m := by
  rw [run_bind]
  cases x.run n with
  | ok a k => simp [and_assoc]
  | error e' k => simp

theorem run_bind_eq_error_iff {f : α → Evaluation β} :
    (x >>= f).run n = .error e m ↔
      x.run n = .error e m ∨ ∃ a k, x.run n = .ok a k ∧ (f a).run k = .error e m := by
  rw [run_bind]
  cases x.run n with
  | ok a k => simp [and_assoc]
  | error e' k => simp

theorem run_map_eq_ok_iff {f : α → β} {b : β} :
    (f <$> x).run n = .ok b m ↔ ∃ a, x.run n = .ok a m ∧ f a = b := by
  rw [run_map]
  cases x.run n with
  | ok a k => simpa [and_assoc] using and_comm
  | error e' k => simp

theorem run_map_eq_error_iff {f : α → β} :
    (f <$> x).run n = .error e m ↔ x.run n = .error e m := by
  rw [run_map]
  cases x.run n with
  | ok a k => simp
  | error e' k => simp

theorem run_ofFault_eq_ok_iff {r : Except Fault α} {a : α} :
    (ofFault r).run n = .ok a m ↔ r = .ok a ∧ n = m := by
  cases r with
  | ok b => simp [ofFault]
  | error f =>
    constructor
    · intro h
      cases h
    · rintro ⟨h, -⟩
      cases h

theorem run_ofFault_ne_expansion {r : Except Fault α} {e : ExpansionError} :
    (ofFault r).run n ≠ .error (.expansion e) m := by
  intro h
  cases r with
  | ok a => cases h
  | error f => cases h

theorem run_ofExcept_eq_ok_iff {r : Except Failure α} {a : α} :
    (ofExcept r).run n = .ok a m ↔ r = .ok a ∧ n = m := by
  cases r with
  | ok b => simp [ofExcept]
  | error e =>
    constructor
    · intro h
      cases h
    · rintro ⟨h, -⟩
      cases h

theorem run_ofExcept_eq_error_iff {r : Except Failure α} :
    (ofExcept r).run n = .error e m ↔ r = .error e ∧ n = m := by
  cases r with
  | ok a => simp [ofExcept]
  | error e' =>
    constructor
    · intro h
      cases h
      exact ⟨rfl, rfl⟩
    · rintro ⟨h, rfl⟩
      cases h
      rfl

end Evaluation

open Evaluation

variable {ctx : Context} {clock : Calendar.Moment}

namespace Operator

/-- A chain of operators, from a value and a cursor, applies an operator to a value at a cursor. -/
inductive Applies [Packages] (ctx : Context) :
    List Operator → Value → Nat → Operator → Value → Nat → Prop where
  | first {o : Operator} {os : List Operator} {v : Value} {n : Nat} :
      Applies ctx (o :: os) v n o v n
  | later {o o' : Operator} {os : List Operator} {v w v' : Value} {n m k : Nat} :
      (o.apply ctx v).run n = .ok w m → Applies ctx os w m o' v' k →
      Applies ctx (o :: os) v n o' v' k

theorem apply_eq_map [Packages] (ctx : Context) (o : Operator) (v : Value) :
    o.apply ctx v = Value.text <$> o.applyText ctx v := by simp [apply]

theorem Applies.mem [Packages] {os : List Operator} {v u : Value} {n k : Nat} {o : Operator}
    (h : Applies ctx os v n o u k) : o ∈ os := by
  induction h with
  | first => exact List.mem_cons_self
  | later _ _ ih => exact List.mem_cons_of_mem _ ih

theorem exists_applies [Packages] {os : List Operator} {v w : Value} {n m : Nat}
    (h : (applyAll ctx os v).run n = .ok w m) {o : Operator} (ho : o ∈ os) :
    ∃ u k, Applies ctx os v n o u k := by
  induction os generalizing v n with
  | nil => cases ho
  | cons first os ih =>
    rcases List.mem_cons.1 ho with rfl | ho
    · exact ⟨v, n, .first⟩
    · obtain ⟨x, j, hfirst, hrest⟩ := run_bind_eq_ok_iff.1 h
      obtain ⟨u, k, hu⟩ := ih hrest ho
      exact ⟨u, k, .later hfirst hu⟩

theorem Applies.exists_text [Packages] {os : List Operator} {v w u : Value} {n m k : Nat}
    {o : Operator} (ha : Applies ctx os v n o u k) (h : (applyAll ctx os v).run n = .ok w m) :
    ∃ t j, (o.applyText ctx u).run k = .ok t j := by
  induction ha with
  | first =>
    obtain ⟨x, j, hfirst, -⟩ := run_bind_eq_ok_iff.1 h
    rw [apply_eq_map] at hfirst
    obtain ⟨t, ht, -⟩ := run_map_eq_ok_iff.1 hfirst
    exact ⟨t, j, ht⟩
  | later hfirst _ ih =>
    rw [applyAll, run_bind, hfirst] at h
    exact ih h

theorem exists_applies_of_error [Packages] {os : List Operator} {v : Value} {n m : Nat}
    {e : Failure} (h : (applyAll ctx os v).run n = .error e m) :
    ∃ o u k, Applies ctx os v n o u k ∧ (o.applyText ctx u).run k = .error e m := by
  induction os generalizing v n with
  | nil => cases h
  | cons first os ih =>
    rcases run_bind_eq_error_iff.1 h with hfirst | ⟨x, j, hfirst, hrest⟩
    · rw [apply_eq_map] at hfirst
      exact ⟨first, v, n, .first, run_map_eq_error_iff.1 hfirst⟩
    · obtain ⟨o, u, k, hu, he⟩ := ih hrest
      exact ⟨o, u, k, .later hfirst hu, he⟩

end Operator

namespace Body

theorem run_baseValue (ctx : Context) (clock : Calendar.Moment) (b : Base) (n : Nat) :
    ∃ v m, (baseValue ctx clock b).run n = .ok v m := by
  cases b with
  | next => exact ⟨_, _, rfl⟩
  | clock => exact ⟨_, _, rfl⟩
  | position i => exact ⟨_, _, rfl⟩

theorem run_evaluate_eq_ok [Packages] {b : Body} {n m : Nat} {t : Text}
    (h : (b.evaluate ctx clock).run n = .ok t m) :
    ∃ v j w k, (baseValue ctx clock b.base).run n = .ok v j ∧
      (Operator.applyAll ctx b.operators v).run j = .ok w k := by
  obtain ⟨v, j, hv, h⟩ := run_bind_eq_ok_iff.1 h
  obtain ⟨w, k, hw, -⟩ := run_bind_eq_ok_iff.1 h
  exact ⟨v, j, w, k, hv, hw⟩

/-- An evaluation gives an expansion error only through its operators; the value behind them can
only fault. -/
theorem run_evaluate_eq_expansion [Packages] {b : Body} {n m : Nat} {e : ExpansionError}
    (h : (b.evaluate ctx clock).run n = .error (.expansion e) m) :
    ∃ v j, (baseValue ctx clock b.base).run n = .ok v j ∧
      (Operator.applyAll ctx b.operators v).run j = .error (.expansion e) m := by
  obtain ⟨v, j, hv⟩ := run_baseValue ctx clock b.base n
  rw [evaluate, run_bind, hv] at h
  rcases run_bind_eq_error_iff.1 h with happly | ⟨w, k, -, htext⟩
  · exact ⟨v, j, hv, happly⟩
  · exact absurd htext run_ofFault_ne_expansion

end Body

namespace Token

/-- A run of tokens, from a cursor, applies an operator to a value at a cursor. -/
inductive Applies [Packages] (ctx : Context) (clock : Calendar.Moment) :
    List Token → Nat → Operator → Value → Nat → Prop where
  | first {t : Token} {b : Body} {ts : List Token} {v u : Value} {n m k : Nat} {o : Operator} :
      t.evaluated? = some b → (Body.baseValue ctx clock b.base).run n = .ok v m →
      Operator.Applies ctx b.operators v m o u k → Applies ctx clock (t :: ts) n o u k
  | later {t : Token} {ts : List Token} {x : Output} {u : Value} {n m k : Nat} {o : Operator} :
      (t.output ctx clock).run n = .ok x m → Applies ctx clock ts m o u k →
      Applies ctx clock (t :: ts) n o u k

theorem output_of_evaluated? [Packages] {t : Token} {b : Body} (h : t.evaluated? = some b)
    (ctx : Context)
    (clock : Calendar.Moment) : ∃ f, t.output ctx clock = f <$> b.evaluate ctx clock := by
  obtain ⟨e, he, rfl⟩ := exists_replacement h
  cases e with
  | plain => exact ⟨fun text => ⟨text, true⟩, by simp [output, replace]⟩
  | verbatim => exact absurd rfl he
  | backslashed => exact ⟨fun text => ⟨'\\' :: text, true⟩, by simp [output, replace]⟩

theorem output_of_not_evaluated [Packages] {t : Token} (h : t.evaluated? = none) (ctx : Context)
    (clock : Calendar.Moment) : ∃ x, t.output ctx clock = pure x := by
  cases t with
  | literal text => exact ⟨_, rfl⟩
  | blockOpen => exact ⟨_, rfl⟩
  | blockClose => exact ⟨_, rfl⟩
  | replacement e b =>
    cases e with
    | plain => cases h
    | verbatim => exact ⟨⟨.char '\x7b' :: b.raw ++ [.char '\x7d'], true⟩, by simp [output, replace]⟩
    | backslashed => cases h

theorem run_eq_map_output [Packages] (ctx : Context) (clock : Calendar.Moment) (t : Token)
    (block : Block) :
    ∃ f, t.run ctx clock block = f <$> t.output ctx clock := by
  cases t with
  | literal text => exact ⟨_, run_of_not_isMarker rfl block⟩
  | blockOpen => exact ⟨fun _ => block.opened, by simp [run, output]⟩
  | blockClose => exact ⟨fun _ => block.closed, by simp [run, output]⟩
  | replacement e b => exact ⟨_, run_of_not_isMarker rfl block⟩

theorem Applies.exists_mem [Packages] {ts : List Token} {n k : Nat} {o : Operator} {u : Value}
    (h : Applies ctx clock ts n o u k) :
    ∃ t ∈ ts, ∃ b, t.evaluated? = some b ∧ o ∈ b.operators := by
  induction h with
  | first hb _ ho => exact ⟨_, List.mem_cons_self, _, hb, ho.mem⟩
  | later _ _ ih =>
    obtain ⟨t, ht, hb⟩ := ih
    exact ⟨t, List.mem_cons_of_mem _ ht, hb⟩

theorem exists_applies [Packages] {ts : List Token} {block block' : Block} {n m : Nat}
    (h : (runAll ctx clock ts block).run n = .ok block' m) {t : Token} (ht : t ∈ ts) {b : Body}
    (hb : t.evaluated? = some b) {o : Operator} (ho : o ∈ b.operators) :
    ∃ u k, Applies ctx clock ts n o u k := by
  induction ts generalizing block n with
  | nil => cases ht
  | cons first ts ih =>
    obtain ⟨next, j, hfirst, hrest⟩ := run_bind_eq_ok_iff.1 h
    obtain ⟨f, hf⟩ := run_eq_map_output ctx clock first block
    rw [hf] at hfirst
    obtain ⟨x, hx, -⟩ := run_map_eq_ok_iff.1 hfirst
    rcases List.mem_cons.1 ht with rfl | ht
    · obtain ⟨g, hg⟩ := output_of_evaluated? hb ctx clock
      rw [hg] at hx
      obtain ⟨text, htext, -⟩ := run_map_eq_ok_iff.1 hx
      obtain ⟨v, i, w, l, hv, hw⟩ := Body.run_evaluate_eq_ok htext
      obtain ⟨u, k, hu⟩ := Operator.exists_applies hw ho
      exact ⟨u, k, .first hb hv hu⟩
    · obtain ⟨u, k, hu⟩ := ih hrest ht
      exact ⟨u, k, .later hx hu⟩

theorem Applies.exists_text [Packages] {ts : List Token} {block block' : Block} {n m k : Nat}
    {o : Operator}
    {u : Value} (ha : Applies ctx clock ts n o u k)
    (h : (runAll ctx clock ts block).run n = .ok block' m) :
    ∃ text j, (o.applyText ctx u).run k = .ok text j := by
  induction ha generalizing block with
  | @first t b ts v u n i k o hb hv hu =>
    obtain ⟨next, j, hfirst, -⟩ := run_bind_eq_ok_iff.1 h
    obtain ⟨f, hf⟩ := run_eq_map_output ctx clock t block
    obtain ⟨g, hg⟩ := output_of_evaluated? hb ctx clock
    rw [hf, hg] at hfirst
    obtain ⟨x, hx, -⟩ := run_map_eq_ok_iff.1 hfirst
    obtain ⟨text, htext, -⟩ := run_map_eq_ok_iff.1 hx
    obtain ⟨v', i', w, l, hv', hw⟩ := Body.run_evaluate_eq_ok htext
    rw [hv] at hv'
    cases hv'
    exact hu.exists_text hw
  | @later t ts x u n i k o hx _ ih =>
    obtain ⟨next, j, hfirst, hrest⟩ := run_bind_eq_ok_iff.1 h
    obtain ⟨f, hf⟩ := run_eq_map_output ctx clock t block
    rw [hf] at hfirst
    obtain ⟨x', hx', -⟩ := run_map_eq_ok_iff.1 hfirst
    rw [hx] at hx'
    cases hx'
    exact ih hrest

theorem exists_evaluated_of_error [Packages] {ts : List Token} {block : Block} {n m : Nat}
    {e : Failure}
    (h : (runAll ctx clock ts block).run n = .error e m) :
    ∃ t ∈ ts, ∃ b, t.evaluated? = some b ∧ ∃ j, (b.evaluate ctx clock).run j = .error e m ∧
      ∀ o u k v i, (Body.baseValue ctx clock b.base).run j = .ok v i →
        Operator.Applies ctx b.operators v i o u k → Applies ctx clock ts n o u k := by
  induction ts generalizing block n with
  | nil => cases h
  | cons first ts ih =>
    obtain ⟨f, hf⟩ := run_eq_map_output ctx clock first block
    rw [runAll, hf] at h
    rcases run_bind_eq_error_iff.1 h with hfirst | ⟨next, j, hfirst, hrest⟩
    · have hx := run_map_eq_error_iff.1 hfirst
      cases hb : first.evaluated? with
      | none =>
        obtain ⟨x, hpure⟩ := output_of_not_evaluated hb ctx clock
        rw [hpure] at hx
        cases hx
      | some b =>
        obtain ⟨g, hg⟩ := output_of_evaluated? hb ctx clock
        rw [hg] at hx
        exact ⟨first, List.mem_cons_self, b, hb, n, run_map_eq_error_iff.1 hx,
          fun o u k v i hv hu => .first hb hv hu⟩
    · obtain ⟨x, hx, -⟩ := run_map_eq_ok_iff.1 hfirst
      obtain ⟨t, ht, b, hb, i, he, happlies⟩ := ih hrest
      exact ⟨t, List.mem_cons_of_mem _ ht, b, hb, i, he,
        fun o u k v i hv hu => .later hx (happlies o u k v i hv hu)⟩

theorem exists_applies_of_error [Packages] {ts : List Token} {block : Block} {n m : Nat}
    {e : ExpansionError} (h : (runAll ctx clock ts block).run n = .error (.expansion e) m) :
    ∃ o u k, Applies ctx clock ts n o u k ∧
      (o.applyText ctx u).run k = .error (.expansion e) m := by
  obtain ⟨t, -, b, -, j, he, happlies⟩ := exists_evaluated_of_error h
  obtain ⟨v, i, hv, hw⟩ := Body.run_evaluate_eq_expansion he
  obtain ⟨o, u, k, hu, he⟩ := Operator.exists_applies_of_error hw
  exact ⟨o, u, k, happlies o u k v i hv hu, he⟩

end Token

theorem expand_of_applyAll [Packages] {template raw u : Text} {os : List Operator} {v : Value}
    (hscan : scan template = ⟨[.replacement .plain ⟨raw, .next, os⟩], none⟩)
    (happly : ∀ ctx, Operator.applyAll ctx os v = pure (.text u)) (settings : Settings)
    (clock : Calendar.Moment) : expand settings clock template [v] = .ok u := by
  have hbody : (Body.evaluate (settings.context [v]) clock ⟨raw, .next, os⟩).run 0 = .ok u 1 := by
    refine run_bind_eq_ok_iff.2 ⟨v, 1, rfl, ?_⟩
    rw [happly]
    rfl
  have hblock : ((Block.start.append u).record u).finished.buffer.text = u :=
    Buffer.text_append u .empty
  rw [expand_eq_outcome (by rw [hscan]), hscan, outcome_map_eq_ok_iff]
  refine ⟨_, 1, ?_, hblock.symm⟩
  exact run_bind_eq_ok_iff.2 ⟨_, 1, run_bind_eq_ok_iff.2 ⟨u, 1, hbody, rfl⟩, rfl⟩

end BraceTemplate

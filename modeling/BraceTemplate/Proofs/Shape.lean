import BraceTemplate.JobFile
import BraceTemplate.Proofs.Substitution
import Mathlib.Data.List.Forall2

/-!
# BraceTemplate.Proofs.Shape

What substitution leaves as it is: the kind and the length of every collection, the keys, everything
under a skipped key and every text without a variable (`Kept`). The template of a job is under a
skipped key, so that a job that is loaded has the template of its document (`substitution_keeps`).
The schema takes octets for the text that they encode, and this is the only way in which the two can
differ (`template_of_octets`).
-/

namespace BraceTemplate

namespace Environment

/-- A value that holds no other values and is no text; a tuple and a set count as one value. -/
def IsLeaf : Value → Prop
  | .text _ => False
  | .list _ => False
  | .dict _ => False
  | _ => True

/-- An entry keeps its key, and under a skipped key its value too. -/
inductive KeptEntry (skipped : List Text) (R : Value → Value → Prop) :
    Value × Value → Value × Value → Prop where
  | skipped {k v : Value} (hk : ∃ name ∈ skipped, k = .text name) :
      KeptEntry skipped R (k, v) (k, v)
  | kept {k v w : Value} (hk : ∀ name ∈ skipped, k ≠ .text name) (h : R v w) :
      KeptEntry skipped R (k, v) (k, w)

/-- What a value and its substitution have in common, at every depth. -/
inductive Kept (skipped : List Text) : Value → Value → Prop where
  | leaf {v : Value} (h : IsLeaf v) : Kept skipped v v
  /-- A text changes only if it holds a variable, and its kind only if it is one. -/
  | text {t : Text} {w : Value} (same : (¬ ∃ x, Occurs skipped x (.text t)) → w = .text t)
      (kind : (∃ r, w = .text r) ∨ ∃ x : Variable, x.Spelled ∧ t = x.source) :
      Kept skipped (.text t) w
  | list {vs ws : List Value} (h : List.Forall₂ (Kept skipped) vs ws) :
      Kept skipped (.list vs) (.list ws)
  | dict {es fs : List (Value × Value)}
      (h : List.Forall₂ (KeptEntry skipped (Kept skipped)) es fs) :
      Kept skipped (.dict es) (.dict fs)

section

variable {env : Environment} {strict : Bool} {skipped : List Text}

theorem flatMap_replaced_of_forall {t : Text} (h : ∀ x, .variable x ∉ pieces t) :
    (pieces t).flatMap (Piece.replaced env) = t := by
  have hcut := cut_pieces t
  generalize pieces t = ps at hcut h
  induction hcut with
  | nil => rfl
  | char _ _ ih =>
    rw [List.flatMap_cons, ih fun x hx => h x (List.mem_cons_of_mem _ hx)]
    rfl
  | «variable» _ _ _ => exact absurd List.mem_cons_self (h _)

theorem exists_source_of_isOneVariable {t : Text} (h : isOneVariable (pieces t) = true) :
    ∃ x : Variable, x.Spelled ∧ t = x.source := by
  obtain ⟨x, hx⟩ := isOneVariable_iff.1 h
  have hcut := cut_pieces t
  rw [hx] at hcut
  cases hcut with
  | «variable» hspelled hrest =>
    cases hrest
    exact ⟨x, hspelled, List.append_nil _⟩

theorem kept_replacedText (t : Text) : Kept skipped (.text t) (replacedText env t) := by
  refine .text (fun hnone => ?_) ?_
  · have hvariables : ∀ x, .variable x ∉ pieces t := fun x hx =>
      hnone ⟨x, occurs_text_iff.2 hx⟩
    simp [replacedText, flatMap_replaced_of_forall hvariables]
  · unfold replacedText
    simp only
    split
    · rename_i h
      exact .inr (exists_source_of_isOneVariable (Bool.and_eq_true_iff.1 h).1)
    · exact .inl ⟨_, rfl⟩

mutual
theorem kept_replaced (v : Value) : Kept skipped v (replaced env skipped v) := by
  cases v with
  | text t => exact kept_replacedText t
  | list items => exact .list (kept_replacedItems items)
  | dict entries => exact .dict (kept_replacedEntries entries)
  | _ => exact .leaf trivial

theorem kept_replacedItems (vs : List Value) :
    List.Forall₂ (Kept skipped) vs (replacedItems env skipped vs) := by
  cases vs with
  | nil => exact .nil
  | cons v vs => exact .cons (kept_replaced v) (kept_replacedItems vs)

theorem kept_replacedEntries (es : List (Value × Value)) :
    List.Forall₂ (KeptEntry skipped (Kept skipped)) es (replacedEntries env skipped es) := by
  match es with
  | [] => exact .nil
  | (k, v) :: es =>
    refine .cons ?_ (kept_replacedEntries es)
    cases h : isSkipped skipped k with
    | true => exact .skipped (isSkipped_eq_true_iff.1 h)
    | false => exact .kept (isSkipped_eq_false_iff.1 h) (kept_replaced v)
end

end

end Environment

namespace Schema

theorem field?_eq_of_kept {skipped : List Text} {R : Value → Value → Prop} {name : String}
    (hname : name.toText ∈ skipped) {es fs : Entries}
    (h : List.Forall₂ (Environment.KeptEntry skipped R) es fs) :
    field? name fs = field? name es := by
  have hreverse := List.forall₂_reverse_iff.2 h
  unfold field?
  congr 1
  generalize es.reverse = es at hreverse
  generalize fs.reverse = fs at hreverse
  induction hreverse with
  | nil => rfl
  | cons hentry _ ih =>
    cases hentry with
    | skipped hk => simp only [List.find?_cons, ih]
    | @kept k v w hk _ =>
      cases k with
      | text t =>
        have hother : t ≠ name.toText := fun heq => hk name.toText hname (by rw [heq])
        simp only [List.find?_cons, decide_eq_false hother, ih]
      | _ => simp only [List.find?_cons, ih]

theorem eq_of_asText? {v : Value} {t : Text} (h : asText? v = some t) :
    v = .text t ∨ ∃ bytes, Codec.Utf8.encode t = .ok bytes ∧ v = .octets bytes := by
  cases v with
  | text u =>
    cases h
    exact .inl rfl
  | octets bytes =>
    simp only [asText?, Codec.Utf8.decode?] at h
    split at h
    · rename_i hencode
      split at h
      · rename_i hbytes
        cases h
        exact .inr ⟨_, hencode, by rw [hbytes]⟩
      · cases h
    · cases h
  | _ => cases h

theorem field?_template_of_readJob {entries : Entries} {job : Job} (h : readJob entries = .ok job) :
    ∃ v, field? "template" entries = some v ∧ asText? v = some job.template := by
  unfold readJob at h
  simp only at h
  split at h
  · rename_i template parameters settings htemplate _ _
    cases h
    unfold readTemplate at htemplate
    split at htemplate
    · cases htemplate
    · rename_i v hfield
      split at htemplate
      · rename_i t htext
        cases htemplate
        exact ⟨v, hfield, htext⟩
      · cases htemplate
  · cases h

end Schema

namespace JobFile

theorem exists_of_read {env : Environment} {strict : Bool} {t : Text} {job : Job}
    (h : read env ⟨true, strict⟩ t = .ok job) :
    ∃ entries substituted, readMapping t = .ok entries ∧
      Environment.substituteEntries env strict skippedKeys entries = .ok substituted ∧
      Schema.readJob substituted = .ok job := by
  unfold read at h
  split at h
  · cases h
  · rename_i entries hmapping
    simp only [substitute, if_true] at h
    cases hsubstitute : Environment.substituteEntries env strict skippedKeys entries with
    | error e =>
      rw [hsubstitute] at h
      cases h
    | ok substituted =>
      rw [hsubstitute] at h
      simp only [build] at h
      split at h
      · split at h
        · rename_i hjob
          cases h
          exact ⟨entries, substituted, hmapping, hsubstitute, hjob⟩
        · cases h
      · cases h

end JobFile

/-- Whatever substitution returns has the shape of the value that it was given, at every depth: the
same keys in the same order, lists of the same length, and everything unchanged that is no text, has
no variable or stands under a skipped key; and only a text that is one variable may become something
else than a text. So a job is loaded with the template that its document has, as it is written; if
the document has octets there, with the text that they encode. -/
theorem substitution_keeps (env : Environment) (strict : Bool) :
    (∀ (skipped : List Text) (v w : Value),
      Environment.substitute env strict skipped v = .ok w → Environment.Kept skipped v w) ∧
    ∀ (t : Text) (job : Job), JobFile.read env ⟨true, strict⟩ t = .ok job →
      ∃ entries template, JobFile.readMapping t = .ok entries ∧
        Schema.field? "template" entries = some template ∧
        (template = .text job.template ∨
          ∃ bytes, Codec.Utf8.encode job.template = .ok bytes ∧ template = .octets bytes) := by
  refine ⟨fun skipped v w h => ?_, fun t job h => ?_⟩
  · obtain ⟨-, rfl⟩ := (Environment.substitute_eq_ok_iff v w).1 h
    exact Environment.kept_replaced v
  · obtain ⟨entries, substituted, hmapping, hsubstitute, hjob⟩ := JobFile.exists_of_read h
    obtain ⟨-, rfl⟩ := (Environment.substituteEntries_eq_ok_iff entries substituted).1 hsubstitute
    obtain ⟨template, hfield, htext⟩ := Schema.field?_template_of_readJob hjob
    have hskipped : "template".toText ∈ JobFile.skippedKeys := List.mem_singleton_self _
    rw [Schema.field?_eq_of_kept hskipped (Environment.kept_replacedEntries entries)] at hfield
    exact ⟨entries, template, hmapping, hfield, Schema.eq_of_asText? htext⟩

/-- A template that looks like a variable that has to be set, and a parameter that is one with a
default. -/
theorem substitution_keeps_template :
    let t := "template: $\x7bA:?\x7d\nparameters: ['$\x7bB:1\x7d']".toText
    let job : Job := ⟨"$\x7bA:?\x7d".toText, [[.int 1]], {}⟩
    JobFile.read [] ⟨true, false⟩ t = .ok job ∧
      ∃ entries template, JobFile.readMapping t = .ok entries ∧
        Schema.field? "template" entries = some template ∧
        (template = .text job.template ∨
          ∃ bytes, Codec.Utf8.encode job.template = .ok bytes ∧ template = .octets bytes) := by
  intro t job
  have htokens : Yaml.tokens t = .ok
      [.blockMappingStart, .key, .scalar "template".toText true, .value,
        .scalar "$\x7bA:?\x7d".toText true, .key, .scalar "parameters".toText true, .value,
        .flowSequenceStart, .scalar "$\x7bB:1\x7d".toText false, .flowSequenceEnd, .blockEnd] := by
    decide +kernel
  let n : Yaml.Node := .mapping .mapping
    [(.scalar .text "template".toText, .scalar .text "$\x7bA:?\x7d".toText),
      (.scalar .text "parameters".toText,
        .sequence .sequence [.scalar .text "$\x7bB:1\x7d".toText])]
  have hmapping : JobFile.readMapping t = .ok
      [(.text "template".toText, .text "$\x7bA:?\x7d".toText),
        (.text "parameters".toText, .list [.text "$\x7bB:1\x7d".toText])] := by
    rw [JobFile.readMapping, Yaml.read_of_node (n := n) htokens rfl]
    simp only [n, Yaml.Node.value, Yaml.Node.entries, Yaml.Node.keyValue, Yaml.Node.values,
      Yaml.Node.valueOfText]
    rfl
  have hread : JobFile.read [] ⟨true, false⟩ t = .ok job := by
    rw [JobFile.read, hmapping]
    rfl
  exact ⟨hread, (substitution_keeps [] false).2 t job hread⟩

/-- Octets in place of the template: the template of the job is their text, not the octets. -/
theorem template_of_octets :
    ∃ job entries, JobFile.read [] ⟨true, false⟩ "template: !!binary aGk=".toText = .ok job ∧
      JobFile.readMapping "template: !!binary aGk=".toText = .ok entries ∧
      Schema.field? "template" entries ≠ some (.text job.template) := by
  have htokens : Yaml.tokens "template: !!binary aGk=".toText = .ok
      [.blockMappingStart, .key, .scalar "template".toText true, .value,
        .tag ⟨some ['!', '!'], "binary".toText⟩, .scalar "aGk=".toText true, .blockEnd] := by
    decide +kernel
  let n : Yaml.Node := .mapping .mapping
    [(.scalar .text "template".toText, .scalar .octets "aGk=".toText)]
  have hmapping : JobFile.readMapping "template: !!binary aGk=".toText =
      .ok [(.text "template".toText, .octets [104, 105])] := by
    rw [JobFile.readMapping, Yaml.read_of_node (n := n) htokens rfl]
    simp only [n, Yaml.Node.value, Yaml.Node.entries, Yaml.Node.keyValue, Yaml.Node.valueOfText]
    rfl
  refine ⟨⟨['h', 'i'], [], {}⟩, _, ?_, hmapping, fun h => ?_⟩
  · rw [JobFile.read, hmapping]
    rfl
  · cases h

end BraceTemplate

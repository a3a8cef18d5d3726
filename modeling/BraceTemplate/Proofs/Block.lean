import BraceTemplate.Block

/-!
# BraceTemplate.Proofs.Block

What the operations of a buffer do to its text, and that rolling back to a mark gives back the
buffer at the mark.
-/

namespace BraceTemplate

namespace Buffer

theorem text_append (t : Text) (b : Buffer) : (b.append t).text = b.text ++ t := by
  unfold append
  split
  · rename_i h
    rw [List.isEmpty_iff.1 h, List.append_nil]
  · simp [text]

theorem suffix_parts_append (t : Text) (b : Buffer) : b.parts <:+ (b.append t).parts := by
  unfold append
  split
  · exact List.suffix_refl _
  · exact List.suffix_cons _ _

theorem parts_rollback_mark {b c : Buffer} (h : b.parts <:+ c.parts) :
    (c.rollback b.mark).parts = b.parts := by
  obtain ⟨ps, hps⟩ := h
  have hkept : ¬ ((b.parts.length : Int) < 0) := by omega
  simp [rollback, mark, hkept, ← hps]

theorem text_eq_of_parts {b c : Buffer} (h : b.parts = c.parts) : b.text = c.text := by
  rw [text, text, h]

end Buffer

end BraceTemplate

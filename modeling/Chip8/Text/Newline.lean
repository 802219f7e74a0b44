import Chip8.Text.Basic

/-!
# Line ends

A file may end its lines with a line feed, a carriage return or both.  Inside the assembler lines
end with a line feed.
-/

namespace Chip8.Text

/-- Writes every line end as one line feed. -/
def unifyNewlines : Text → Text
  | [] => []
  | '\r' :: '\n' :: rest => '\n' :: unifyNewlines rest
  | '\r' :: rest => '\n' :: unifyNewlines rest
  | c :: rest => c :: unifyNewlines rest

theorem unifyNewlines_of_not_mem {t : Text} (h : '\r' ∉ t) : unifyNewlines t = t := by
  induction t with
  | nil => rfl
  | cons c rest ih =>
      simp only [List.mem_cons, not_or] at h
      rw [unifyNewlines.eq_4 c rest (fun _ hc => absurd hc.symm h.1) (fun hc => absurd hc.symm h.1),
        ih h.2]

end Chip8.Text

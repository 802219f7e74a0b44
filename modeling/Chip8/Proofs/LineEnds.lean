import Chip8.Proofs.FileTree
import Chip8.Proofs.Pieces
import Chip8.Proofs.Utf8
import Chip8.Proofs.Words

/-!
# Line ends

Carriage returns are met in two places: a file that is read has every end of a line as one line
feed, and a line of a source loses the carriage returns at its end.  Where each carriage return
belongs to the end of a line, both come to the same lines, and so a source may be assembled from a
file or as it is, with either end of a line or with both.
-/

namespace Chip8

namespace Text

variable {s t : Text} {c : Char}

/-- Holds when each carriage return stands before a line feed. -/
def ReturnsEndLines (t : Text) : Prop :=
  ∀ position < t.length, t[position]? = some '\r' → t[position + 1]? = some '\n'

instance (t : Text) : Decidable (ReturnsEndLines t) :=
  inferInstanceAs (Decidable (∀ position < t.length, _))

/-- Leaves out each carriage return before a line feed. -/
def shortenLineEnds : Text → Text
  | [] => []
  | '\r' :: '\n' :: rest => '\n' :: shortenLineEnds rest
  | c :: rest => c :: shortenLineEnds rest

theorem ReturnsEndLines.tail (h : ReturnsEndLines (c :: t)) : ReturnsEndLines t := by
  intro position hlt hreturn
  exact h (position + 1) (Nat.succ_lt_succ hlt) hreturn

/-- A carriage return that stands before a line feed is no end of a line of its own. -/
theorem unifyNewlines_of_returnsEndLines (h : ReturnsEndLines t) :
    unifyNewlines t = shortenLineEnds t := by
  induction t using unifyNewlines.induct with
  | case1 => rfl
  | case2 rest ih => exact congrArg ('\n' :: ·) (ih h.tail.tail)
  | case3 rest hnext _ =>
      -- a carriage return without a line feed after it
      have hfeed : rest[0]? = some '\n' := h 0 (Nat.succ_pos _) rfl
      cases rest with
      | nil => contradiction
      | cons d others => exact absurd (congrArg (· :: others) (Option.some.inj hfeed)) (hnext others)
  | case4 c rest hpair hreturn ih =>
      rw [unifyNewlines.eq_4 c rest hpair hreturn, shortenLineEnds.eq_3 c rest hpair, ih h.tail]

/-! ### Lines without the ends -/

theorem trimRight_trimRight (p : Char → Bool) (t : Text) :
    trimRight p (trimRight p t) = trimRight p t := by
  obtain ⟨tail, htail, hall⟩ := exists_append_trimRight p t
  rw [← trimRight_append_of_forall (trimRight p t) hall, ← htail]

theorem map_trimRight_splitOn_cons {p : Char → Bool} {sep : Char}
    (h : (splitOn sep s).map (trimRight p) = (splitOn sep t).map (trimRight p)) (c : Char) :
    (splitOn sep (c :: s)).map (trimRight p) = (splitOn sep (c :: t)).map (trimRight p) := by
  rw [splitOn, splitOn]
  by_cases hc : c = sep
  · rw [if_pos hc, if_pos hc, List.map_cons, List.map_cons, h]
  · rw [if_neg hc, if_neg hc]
    cases hs : splitOn sep s with
    | nil => exact absurd hs (splitOn_ne_nil sep s)
    | cons first others =>
        cases ht : splitOn sep t with
        | nil => exact absurd ht (splitOn_ne_nil sep t)
        | cons first' others' =>
            -- the character comes before the first piece, of which the end is trimmed
            rw [hs, ht, List.map_cons, List.map_cons] at h
            obtain ⟨hfirst, hothers⟩ := List.cons_eq_cons.mp h
            show trimRight p (c :: first) :: _ = trimRight p (c :: first') :: _
            rw [trimRight, trimRight, hfirst, hothers]

/-- A carriage return before a line feed is at the end of a line, and so it is trimmed. -/
theorem map_trimRight_splitOn_shortenLineEnds (t : Text) :
    (splitOn '\n' (shortenLineEnds t)).map (trimRight (· == '\r')) =
      (splitOn '\n' t).map (trimRight (· == '\r')) := by
  induction t using shortenLineEnds.induct with
  | case1 => rfl
  | case2 rest ih => exact map_trimRight_splitOn_cons ih '\n'
  | case3 c rest hpair ih =>
      rw [shortenLineEnds.eq_3 c rest hpair]
      exact map_trimRight_splitOn_cons ih c

end Text

/-! ### Lines of sources -/

theorem Line.read_trimRight (file : Text) (number : Nat) (raw : Text) :
    Line.read file number (Text.trimRight (· == '\r') raw) = Line.read file number raw := by
  unfold Line.read
  rw [Text.trimRight_trimRight]

/-- The lines of a source are read off their texts without the carriage returns at the ends. -/
theorem Source.lines_eq_of_texts {source source' : Text} (h : texts source = texts source')
    (file : Text) : lines file source = lines file source' := by
  have hlines (source : Text) : lines file source =
      (((texts source).zipIdx 1).map fun line => Line.read file line.2 line.1).filter
        fun line => !line.tokens.isEmpty := by
    have hread : (fun line : Text × Nat => Line.read file line.2 line.1) ∘
        Prod.map (Text.trimRight (· == '\r')) id =
          fun line : Text × Nat => Line.read file line.2 line.1 :=
      funext fun line => Line.read_trimRight file line.2 line.1
    unfold lines texts
    rw [List.zipIdx_map, List.map_map, hread]
  rw [hlines, hlines, h]

theorem Source.lines_shortenLineEnds (file source : Text) :
    lines file (Text.shortenLineEnds source) = lines file source :=
  lines_eq_of_texts (Text.map_trimRight_splitOn_shortenLineEnds source) file

theorem assemble_eq_of_lines {file source source' : Text} (options : Options)
    (h : Source.lines file source = Source.lines file source') :
    assemble options file source = assemble options file source' := by
  unfold assemble Program.ofSource
  rw [h]

/-! ### Files -/

open FileTree

/-- A file that holds the bytes of a source is assembled like the source, and the source like
itself with each end of a line as one line feed. -/
theorem assembleFile_eq_assemble {options : Options} {tree : FileTree} {path : Path}
    {source : Text} (hreturns : Text.ReturnsEndLines source)
    (hbytes : tree.read path = .ok (Text.Utf8.encode source)) :
    (assembleFile options path : Session (Except Trouble Assembly)).run tree =
        ((assemble options path.text source).mapError .program, tree) ∧
      assemble options path.text (Text.shortenLineEnds source) =
        assemble options path.text source := by
  have hshort : assemble options path.text (Text.shortenLineEnds source) =
      assemble options path.text source :=
    assemble_eq_of_lines options (Source.lines_shortenLineEnds path.text source)
  have hsource : tree.source path = .ok (Text.shortenLineEnds source) :=
    source_eq_ok_iff.mpr ⟨_, source, hbytes, Text.Utf8.decode_encode source,
      Text.unifyNewlines_of_returnsEndLines hreturns⟩
  refine ⟨?_, hshort⟩
  unfold assembleFile
  rw [(asks_readSource path).run_bind, hsource, ← hshort]
  rfl

/-- A file with ends of lines of both kinds, blank lines and characters of two bytes. -/
theorem assembleFile_eq_assemble_mixed :
    ∃ assembly,
      (assembleFile {} (Path.ofText "a.asm".toList) : Session (Except Trouble Assembly)).run
          { files := [(["a.asm".toList],
              Text.Utf8.encode "É: LD V0, 7 ; é\r\n\n\r\n\tJP\té\r\nDB #FF\r\n".toList)] } =
        (.ok assembly,
          { files := [(["a.asm".toList],
              Text.Utf8.encode "É: LD V0, 7 ; é\r\n\n\r\n\tJP\té\r\nDB #FF\r\n".toList)] }) ∧
      assemble {} "a.asm".toList "É: LD V0, 7 ; é\n\n\n\tJP\té\nDB #FF\n".toList = .ok assembly ∧
      assembly.image = [0x60, 0x07, 0x12, 0x00, 0xFF] := by
  have hreturns : Text.ReturnsEndLines
      "É: LD V0, 7 ; é\r\n\n\r\n\tJP\té\r\nDB #FF\r\n".toList := by
    decide +kernel
  have hbytes : FileTree.read
      { files := [(["a.asm".toList],
          Text.Utf8.encode "É: LD V0, 7 ; é\r\n\n\r\n\tJP\té\r\nDB #FF\r\n".toList)] }
      (Path.ofText "a.asm".toList) =
        .ok (Text.Utf8.encode "É: LD V0, 7 ; é\r\n\n\r\n\tJP\té\r\nDB #FF\r\n".toList) := by
    decide +kernel
  have hname : (Path.ofText "a.asm".toList).text = "a.asm".toList := by decide +kernel
  have hshort : Text.shortenLineEnds "É: LD V0, 7 ; é\r\n\n\r\n\tJP\té\r\nDB #FF\r\n".toList =
      "É: LD V0, 7 ; é\n\n\n\tJP\té\nDB #FF\n".toList := by
    decide +kernel
  have himage : Assembly.image <$> assemble {} "a.asm".toList
      "É: LD V0, 7 ; é\n\n\n\tJP\té\nDB #FF\n".toList = .ok [0x60, 0x07, 0x12, 0x00, 0xFF] := by
    decide +kernel
  obtain ⟨assembly, hmade, himage⟩ := map_eq_ok_iff.mp himage
  obtain ⟨hfile, hsame⟩ := @assembleFile_eq_assemble {} _ _ _ hreturns hbytes
  rw [← hsame, hname, hshort, hmade] at hfile
  exact ⟨assembly, hfile, hmade, himage⟩

end Chip8
